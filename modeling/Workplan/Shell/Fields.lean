/-
# `Workplan.Shell.Fields` — from an expanded word to fields

What an unquoted expansion gave is split at the separators; everything else stays together.  A
field with unquoted wildcards is replaced by the paths that match it, if there are any.
-/
import Workplan.Files.Tree
import Workplan.Shell.Wildcard

namespace Workplan.Shell

/-- A part of an expanded word: a byte that may separate fields or not, a place where a field
ends, or a mark that there is a field even if nothing is in it. -/
inductive Item where
  | byte (mark : Mark) (separates : Bool)
  | boundary
  | presence

namespace Item

def ofBytes (bytes : Bytes) (quoted separates : Bool) : List Item :=
  (marksOf bytes quoted).map fun m => .byte m separates

end Item

/-- The fields that are complete, the one under way, and whether a blank ended the last one. -/
structure Splitting where
  complete : List (List Mark) := []
  current : Option (List Mark) := none
  afterBlank : Bool := false

namespace Splitting

/-- Ends the field under way. -/
def close (s : Splitting) (afterBlank : Bool) : Splitting :=
  match s.current with
  | none => { s with afterBlank := s.afterBlank && afterBlank }
  | some marks =>
    { complete := s.complete ++ [marks.reverse], current := none, afterBlank }

def add (s : Splitting) (m : Mark) : Splitting :=
  { s with current := some (m :: s.current.getD []), afterBlank := false }

def isBlankByte (b : UInt8) : Bool := b == 32 || b == 9 || b == 10

/-- Takes in one item. -/
def step (separators : Bytes) (s : Splitting) : Item → Splitting
  | .presence => { s with current := some (s.current.getD []) }
  | .boundary => s.close false
  | .byte m separates =>
    if separates && !m.quoted && separators.contains m.byte then
      if isBlankByte m.byte then
        match s.current with
        | some _ => s.close true
        | none => s
      else
        match s.current with
        | some _ => s.close false
        | none =>
          if s.afterBlank then { s with afterBlank := false }
          else { s with complete := s.complete ++ [[]] }
    else s.add m

end Splitting

/-- The fields of an expanded word. -/
def fieldsOf (separators : Bytes) (items : List Item) : List (List Mark) :=
  ((items.foldl (Splitting.step separators) {}).close false).complete

/-- The bytes of an expanded word that is not split; fields stand apart by blanks. -/
def joined (items : List Item) : List Mark :=
  items.filterMap fun i => match i with
    | .byte m _ => some m
    | .boundary => some ⟨32, true⟩
    | .presence => none

/-! ## Paths -/

/-- Whether a field has a wildcard. -/
def hasWildcard (marks : List Mark) : Bool :=
  marks.any fun m => Wildcard.is m '*' || Wildcard.is m '?' || Wildcard.is m '['

/-- The components between slashes. -/
def splitPath : List Mark → List (List Mark)
  | [] => [[]]
  | m :: rest =>
    match splitPath rest with
    | part :: more => if m.byte == 47 then [] :: part :: more else (m :: part) :: more
    | [] => [[m]]

/-- The paths below a place that match components, as they are written. -/
def matchesBelow (t : FileTree) (place : String) : List (List Mark) → List Bytes
  | [] => [bytesOf place]
  | part :: rest =>
    let written := part.map Mark.byte
    let text := (String.fromUTF8? ⟨written.toArray⟩).getD ""
    let names :=
      if hasWildcard part then
        match t.resolve (if place.isEmpty then "." else place) with
        | .ok p =>
          (t.namesIn p).filter fun name =>
            (!name.startsWith "." || text.startsWith ".") &&
              Wildcard.accepts (Wildcard.ofMarks part) (bytesOf name)
        | .error _ => []
      else [text]
    names.flatMap fun name =>
      let path := place ++ name
      if rest.isEmpty then (if t.exists? path then matchesBelow t path rest else [])
      else matchesBelow t (path ++ "/") rest

/-- The paths that match a field, or its own bytes where none does. -/
def paths (t : FileTree) (marks : List Mark) : List Bytes :=
  let own := marks.map Mark.byte
  if hasWildcard marks then
    match matchesBelow t "" (splitPath marks) with
    | [] => [own]
    | found => found
  else [own]

end Workplan.Shell
