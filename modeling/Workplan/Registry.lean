/-
# `Workplan.Registry` — the units that plans can draw on

A registry holds units under their identifiers, in the order in which the identifiers were first
registered.  That order decides which of several producers of a key is used.  Registering an
identifier again replaces the unit in its place; a unit with a blank identifier is not stored.
-/
import Workplan.Text.Blank
import Workplan.WorkUnit

namespace Workplan

/-- Units under their own identifiers, none of them blank. -/
structure Registry where
  units : Table WorkUnit
  keyed : ∀ e ∈ units.entries, e.2.id = e.1
  named : ∀ e ∈ units.entries, Text.allBlank e.1 = false

namespace Registry

def empty : Registry := ⟨{}, nofun, nofun⟩

instance : EmptyCollection Registry := ⟨empty⟩
instance : Inhabited Registry := ⟨empty⟩

theorem mem_putEntry {α : Type} {key : String} {value : α} {es : List (String × α)}
    {e : String × α} (h : e ∈ Table.putEntry key value es) : e = (key, value) ∨ e ∈ es := by
  induction es with
  | nil => exact Or.inl (List.mem_singleton.1 h)
  | cons head rest ih =>
    obtain ⟨k, v⟩ := head
    by_cases hk : k = key
    · simp only [Table.putEntry, hk, if_true, List.mem_cons] at h
      exact h.imp_right (List.mem_cons_of_mem _)
    · simp only [Table.putEntry, hk, if_false, List.mem_cons] at h
      rcases h with rfl | h
      · exact Or.inr List.mem_cons_self
      · exact (ih h).imp_right (List.mem_cons_of_mem _)

/-- Whether a unit has an identifier to be registered under. -/
def storable (u : WorkUnit) : Bool := !Text.allBlank u.id

/-- Registers a unit, unless its identifier is blank. -/
def register (r : Registry) (u : WorkUnit) : Registry :=
  if h : Text.allBlank u.id = true then r
  else
    { units := r.units.insert u.id u
      keyed := fun e he => (mem_putEntry he).elim (fun eq => eq ▸ rfl) (r.keyed e)
      named := fun e he => (mem_putEntry he).elim
        (fun eq => eq ▸ Bool.eq_false_iff.2 h) (r.named e) }

/-- Registers units one after the other. -/
def registerMany (r : Registry) (us : List WorkUnit) : Registry := us.foldl register r

/-- How many of the units have an identifier to be registered under. -/
def storedCount (us : List WorkUnit) : Nat := us.countP storable

def get? (r : Registry) (id : String) : Option WorkUnit := r.units.get? id

def contains (r : Registry) (id : String) : Bool := r.units.contains id

def size (r : Registry) : Nat := r.units.size

/-- The identifiers in the order of first registration. -/
def ids (r : Registry) : List String := r.units.keys

/-- The identifiers of the units that declare to produce a key, first registered first. -/
def providersOf (r : Registry) (key : String) : List String :=
  (r.units.entries.filter fun e => e.2.descriptor.produces key).map Prod.fst

/-- Whether a unit can run on the available keys alone and makes use of one of them. -/
def runnableOn (available : List String) (u : WorkUnit) : Bool :=
  (u.descriptor.inputs.keys.any available.contains) &&
    u.descriptor.requiredKeys.all available.contains

/-- The units that can run on the available keys alone, in the order of registration. -/
def byAttributes (r : Registry) (available : List String) : List WorkUnit :=
  (r.units.entries.filter fun e => runnableOn available e.2).map Prod.snd

/-- Those of them that are of one kind. -/
def byAttributesOfKind (r : Registry) (available : List String) (kind : UnitKind) :
    List WorkUnit :=
  (r.byAttributes available).filter fun u => u.descriptor.kind == kind

end Registry

end Workplan
