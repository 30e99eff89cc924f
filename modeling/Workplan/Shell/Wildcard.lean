/-
# `Workplan.Shell.Wildcard` — patterns of the shell

A pattern is a word in which an unquoted star stands for any bytes, a question mark for one byte
and brackets for one byte of a set.  A pattern matches a text as a whole.
-/
import Workplan.Shell.Syntax

namespace Workplan.Shell

/-- The named classes of ASCII characters. -/
def namedClass? (name : String) : Option (UInt8 → Bool) :=
  let of (p : Char → Bool) : Option (UInt8 → Bool) :=
    some fun b => b < 0x80 && p (Char.ofNat b.toNat)
  let punctuation (c : Char) : Bool := '!' ≤ c && c ≤ '~' && !c.isAlphanum
  let space (c : Char) : Bool := c == ' ' || ('\t' ≤ c && c ≤ '\r')
  match name with
  | "alpha" => of Char.isAlpha
  | "digit" => of Char.isDigit
  | "alnum" => of Char.isAlphanum
  | "upper" => of Char.isUpper
  | "lower" => of Char.isLower
  | "space" => of space
  | "blank" => of fun c => c == ' ' || c == '\t'
  | "punct" => of punctuation
  | "print" => of fun c => ' ' ≤ c && c ≤ '~'
  | "graph" => of fun c => '!' ≤ c && c ≤ '~'
  | "cntrl" => of fun c => c < ' ' || c == '\x7f'
  | "xdigit" => of fun c => c.isDigit || ('a' ≤ c && c ≤ 'f') || ('A' ≤ c && c ≤ 'F')
  | _ => none

/-- A byte of an expanded word, and whether it was quoted. -/
structure Mark where
  byte : UInt8
  quoted : Bool
deriving DecidableEq

def marksOf (bytes : Bytes) (quoted : Bool) : List Mark := bytes.map fun b => ⟨b, quoted⟩

/-- One element of a pattern. -/
inductive Wildcard where
  | byte (b : UInt8)
  | one
  | any
  | set (negated : Bool) (members : List (UInt8 → Bool))

namespace Wildcard

def is (m : Mark) (c : Char) : Bool := !m.quoted && m.byte == byteOf c

/-- The members of a set up to its closing bracket, and what follows it. -/
def members : Nat → Bool → List Mark → Option (List (UInt8 → Bool) × List Mark)
  | 0, _, _ => none
  | _, _, [] => none
  | n + 1, first, m :: rest =>
    if is m ']' && !first then some ([], rest)
    else
      let inName := rest.drop 1
      let name := inName.takeWhile fun x => x.byte != byteOf ':'
      let closes := [byteOf ':', byteOf ']'].isPrefixOf
        ((inName.drop name.length).map Mark.byte)
      match is m '[' && (rest.head?.map (is · ':')).getD false && closes,
          namedClass? (String.ofList (name.map fun x => Char.ofNat x.byte.toNat)), rest with
      | true, some p, _ =>
        (members n false (inName.drop (name.length + 2))).map fun (ps, after) => (p :: ps, after)
      | _, _, dash :: last :: more =>
        if is dash '-' && !is last ']' then
          (members n false more).map fun (ps, after) =>
            ((fun b => m.byte ≤ b && b ≤ last.byte) :: ps, after)
        else (members n false rest).map fun (ps, after) => ((fun b => b == m.byte) :: ps, after)
      | _, _, _ =>
        (members n false rest).map fun (ps, after) => ((fun b => b == m.byte) :: ps, after)

/-- The elements of a pattern; a bracket that is not closed stands for itself. -/
def ofMarksUpTo : Nat → List Mark → List Wildcard
  | 0, _ => []
  | _, [] => []
  | n + 1, m :: rest =>
    if is m '*' then .any :: ofMarksUpTo n rest
    else if is m '?' then .one :: ofMarksUpTo n rest
    else if is m '[' then
      let negated := (rest.head?.map fun x => is x '!' || is x '^').getD false
      match members (rest.length + 1) true (if negated then rest.drop 1 else rest) with
      | some (ps, after) => .set negated ps :: ofMarksUpTo n after
      | none => .byte m.byte :: ofMarksUpTo n rest
    else .byte m.byte :: ofMarksUpTo n rest

def ofMarks (marks : List Mark) : List Wildcard := ofMarksUpTo (marks.length + 1) marks

/-- Whether a pattern matches a text as a whole. -/
def accepts : List Wildcard → Bytes → Bool
  | [], [] => true
  | [], _ :: _ => false
  | .any :: ws, [] => accepts ws []
  | .any :: ws, b :: bs => accepts ws (b :: bs) || accepts (.any :: ws) bs
  | .one :: ws, _ :: bs => accepts ws bs
  | .byte c :: ws, b :: bs => b == c && accepts ws bs
  | .set negated ps :: ws, b :: bs => (ps.any fun p => p b) != negated && accepts ws bs
  | _ :: _, [] => false
termination_by ws bs => ws.length + bs.length

/-- The places at which a text is cut so that the pattern matches what is in front, or behind. -/
def cuts (ws : List Wildcard) (side : Side) (bytes : Bytes) : List Nat :=
  (List.range (bytes.length + 1)).filter fun i =>
    accepts ws (match side with
      | .front => bytes.take i
      | .back => bytes.drop i)

/-- A text without the shortest or longest match at one side. -/
def cut (ws : List Wildcard) (side : Side) (longest : Bool) (bytes : Bytes) : Bytes :=
  let places := cuts ws side bytes
  match side, longest with
  | .front, true => bytes.drop (places.getLast?.getD 0)
  | .front, false => bytes.drop (places.head?.getD 0)
  | .back, true => bytes.take (places.head?.getD bytes.length)
  | .back, false => bytes.take (places.getLast?.getD bytes.length)

/-- The length of the longest match at the front that is not empty. -/
def longestAt? (ws : List Wildcard) (bytes : Bytes) : Option Nat :=
  ((cuts ws .front bytes).filter fun i => 0 < i).getLast?

/-- What takes the place of a match: an ampersand stands for the match itself. -/
def filledIn (replacement : List Mark) (found : Bytes) : Bytes :=
  replacement.flatMap fun m => if is m '&' then found else [m.byte]

/-- A text with the first or every match replaced; an empty match is none. -/
def replaceUpTo (ws : List Wildcard) (all : Bool) (replacement : List Mark) :
    Nat → Bytes → Bytes
  | 0, bytes => bytes
  | _, [] => []
  | n + 1, b :: rest =>
    match longestAt? ws (b :: rest) with
    | some i =>
      let after := (b :: rest).drop i
      filledIn replacement ((b :: rest).take i) ++
        if all then replaceUpTo ws all replacement n after else after
    | none => b :: replaceUpTo ws all replacement n rest

/-- A text with matches replaced; at an end of the text an empty match counts too. -/
def replace (ws : List Wildcard) (reach : Reach) (replacement : List Mark) (bytes : Bytes) :
    Bytes :=
  match reach with
  | .first => replaceUpTo ws false replacement (bytes.length + 1) bytes
  | .every => replaceUpTo ws true replacement (bytes.length + 1) bytes
  | .atFront =>
    match (cuts ws .front bytes).getLast? with
    | some i => filledIn replacement (bytes.take i) ++ bytes.drop i
    | none => bytes
  | .atBack =>
    match (cuts ws .back bytes).head? with
    | some i => bytes.take i ++ filledIn replacement (bytes.drop i)
    | none => bytes

end Wildcard

end Workplan.Shell
