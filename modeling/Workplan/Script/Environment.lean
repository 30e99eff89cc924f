/-
# `Workplan.Script.Environment` — the variables handed to a script

An environment lists variables in the order in which they were set.  A variable may be set more
than once; the script sees the last value.
-/

namespace Workplan

/-- The variables handed to a script, in the order in which they were set. -/
structure Environment where
  entries : List (String × String) := []
deriving DecidableEq

namespace Environment

instance : EmptyCollection Environment := ⟨{}⟩

/-- Sets a variable; an earlier value stays in the list, but is no longer seen. -/
def set (e : Environment) (name value : String) : Environment :=
  ⟨e.entries ++ [(name, value)]⟩

/-- The value that was set last. -/
def get? (e : Environment) (name : String) : Option String :=
  (e.entries.reverse.find? fun v => v.1 == name).map Prod.snd

def size (e : Environment) : Nat := e.entries.length

@[simp] theorem get?_empty (name : String) : (∅ : Environment).get? name = none := rfl

theorem get?_set (e : Environment) (name value other : String) :
    (e.set name value).get? other = if name = other then some value else e.get? other := by
  by_cases h : name = other <;> simp [set, get?, h]

/-- The character of a variable's name that stands for a character of a key. -/
def variableChar (c : Char) : Char := if c.isAlphanum then c.toUpper else '_'

/-- The variable of an input: its key in capitals, with an underscore for everything but ASCII
letters and digits.  Two keys may share a variable. -/
def inputVariable (key : String) : String :=
  "CAPFORGE_IN_" ++ String.ofList (key.toList.map variableChar)

end Environment

end Workplan
