/-
# `Workplan.Shell.Braces` — words made from alternatives

An unquoted list of alternatives in braces makes one word of each, and so does a range of numbers
or letters.  This happens before anything else in the word is looked at.
-/
import Workplan.Shell.Escape

namespace Workplan.Shell.Braces

/-- Text that is not quoted is taken apart, a piece for each byte. -/
def explode (w : Word) : Word :=
  w.flatMap fun p =>
    match p with
    | .text bytes false => bytes.map fun b => .text [b] false
    | p => [p]

def isByte (p : Piece) (c : Char) : Bool :=
  match p with
  | .text [b] false => b == byteOf c
  | _ => false

/-- The alternatives before the brace that closes, and what follows it. -/
def alternatives : Nat → Word → Word → Option (List Word × Word)
  | _, _, [] => none
  | depth, current, p :: rest =>
    if isByte p '\x7b' then alternatives (depth + 1) (p :: current) rest
    else if isByte p '\x7d' then
      match depth with
      | 0 => some ([current.reverse], rest)
      | depth + 1 => alternatives depth (p :: current) rest
    else if isByte p ',' && depth == 0 then
      (alternatives depth [] rest).map fun (ws, after) => (current.reverse :: ws, after)
    else alternatives depth (p :: current) rest

/-- The text of a word in which nothing is quoted or expanded. -/
def plain? (w : Word) : Option String :=
  (w.mapM fun (p : Piece) => match p with
    | .text [b] false => some (Char.ofNat b.toNat)
    | _ => none).map String.ofList

/-- The integer that a text is. -/
def integer? (s : String) : Option Int :=
  match s.toList with
  | '-' :: rest => if rest.all Char.isDigit then (String.ofList rest).toNat?.map fun n => -(n : Int)
      else none
  | cs => if cs.all Char.isDigit then s.toNat?.map fun n => (n : Int) else none

/-- The numbers from one to another. -/
def numbers (first last : Int) (step : Nat) : List Int :=
  let step := max step 1
  (List.range ((last - first).natAbs / step + 1)).map fun (k : Nat) =>
    if first ≤ last then first + step * k else first - step * k

/-- A number with zeros in front. -/
def padded (width : Nat) (n : Int) : String :=
  let digits := (toString n.natAbs).toList
  let sign := if n < 0 then ['-'] else []
  String.ofList (sign ++ List.replicate (width - sign.length - digits.length) '0' ++ digits)

/-- The texts that a range such as `1..5` stands for. -/
def range? (s : String) : Option (List String) :=
  let ends (a b : String) (step : Nat) : Option (List String) :=
    match integer? a, integer? b with
    | some x, some y =>
      let leadingZero (t : String) : Bool := t.length > 1 && (t.startsWith "0" || t.startsWith "-0")
      let width := if leadingZero a || leadingZero b then max a.length b.length else 0
      some ((numbers x y step).map (padded width))
    | _, _ =>
      match a.toList, b.toList with
      | [x], [y] =>
        if x.isAlpha && y.isAlpha then
          some ((numbers x.toNat y.toNat step).map fun n =>
            String.singleton (Char.ofNat n.toNat))
        else none
      | _, _ => none
  match s.splitOn ".." with
  | [a, b] => ends a b 1
  | [a, b, c] => (integer? c).bind fun n => ends a b n.natAbs
  | _ => none

/-- The words of a word whose text is taken apart.  The counter is above its length. -/
def expandUpTo : Nat → Word → List Word
  | 0, w => [w]
  | _, [] => [[]]
  | n + 1, p :: rest =>
    let literally : List Word := (expandUpTo n rest).map (p :: ·)
    if isByte p '\x7b' then
      match alternatives 0 [] rest with
      | none => literally
      | some ([only], after) =>
        match (plain? only).bind range? with
        | none => literally
        | some texts =>
          let tails := expandUpTo n after
          texts.flatMap fun t => tails.map fun w => .text (bytesOf t) false :: w
      | some (ws, after) =>
        let tails := expandUpTo n after
        (ws.flatMap (expandUpTo n)).flatMap fun w => tails.map (w ++ ·)
    else literally

/-- The words that a word stands for. -/
def expand (w : Word) : List Word :=
  let opens : Bool := w.any fun p => match p with
    | .text bytes false => bytes.contains (byteOf '\x7b')
    | _ => false
  if opens then
    let pieces := explode w
    expandUpTo (pieces.length + 1) pieces
  else [w]

end Workplan.Shell.Braces
