/-
# `Workplan.TypeTag` — the declared types of inputs

An input declares one of five data types or, as `port:NAME`, an interface that a collaborator
must offer.  `parse?_text` says that the text of a tag reads back as the tag.
-/

namespace Workplan

/-- The declared type of an input.  A port names a nonempty interface. -/
inductive TypeTag where
  | string
  | integer
  | boolean
  | array
  | object
  | port (interface : String)
deriving DecidableEq

namespace TypeTag

/-- The interface that a text names after the mark of a port. -/
def interface? (text : String) : Option String :=
  match text.toList with
  | 'p' :: 'o' :: 'r' :: 't' :: ':' :: name =>
    if name.isEmpty then none else some (String.ofList name)
  | _ => none

/-- The tag that a text names. -/
def parse? (text : String) : Option TypeTag :=
  if text = "string" then some .string
  else if text = "integer" then some .integer
  else if text = "boolean" then some .boolean
  else if text = "array" then some .array
  else if text = "object" then some .object
  else (interface? text).map .port

/-- The text of a tag. -/
def text : TypeTag → String
  | .string => "string"
  | .integer => "integer"
  | .boolean => "boolean"
  | .array => "array"
  | .object => "object"
  | .port interface => "port:" ++ interface

theorem interface?_mark (interface : String) :
    interface? ("port:" ++ interface) =
      if interface = "" then none else some interface := by
  have h : ("port:" ++ interface).toList =
      'p' :: 'o' :: 'r' :: 't' :: ':' :: interface.toList := by
    simp [String.toList_append]
  unfold interface?
  rw [h]
  simp [String.ofList_toList]

theorem parse?_text (t : TypeTag) (h : t ≠ .port "") : parse? t.text = some t := by
  cases t with
  | port interface =>
    have hne : ∀ s : String, s.toList.head? ≠ some 'p' → "port:" ++ interface ≠ s := by
      intro s hs e
      apply hs
      rw [← e, String.toList_append]
      rfl
    have hi : interface ≠ "" := fun e => h (e ▸ rfl)
    unfold parse? text
    rw [if_neg (hne _ (by decide)), if_neg (hne _ (by decide)), if_neg (hne _ (by decide)),
      if_neg (hne _ (by decide)), if_neg (hne _ (by decide)), interface?_mark, if_neg hi]
    rfl
  | _ => rfl

/-- The message about a text that names no tag. -/
def unknownMessage (text : String) : String := "unknown type tag: " ++ text

/-- The interface of a port tag. -/
def port? : TypeTag → Option String
  | .port interface => some interface
  | _ => none

end TypeTag

end Workplan
