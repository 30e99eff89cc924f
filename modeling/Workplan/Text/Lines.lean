/-
# `Workplan.Text.Lines` — the lines of a text

A line ends with a line feed, or with a carriage return and a line feed.  What follows the last
line feed is a line of its own unless it is empty; a carriage return elsewhere belongs to its
line.
-/

namespace Workplan.Text

/-- Splits before every line feed; the last piece has no line feed after it. -/
def splitLineFeeds : List Char → List (List Char)
  | [] => [[]]
  | '\n' :: rest => [] :: splitLineFeeds rest
  | c :: rest =>
    match splitLineFeeds rest with
    | piece :: more => (c :: piece) :: more
    | [] => [[c]]

/-- A line without the carriage return at its end. -/
def dropCarriageReturn (line : List Char) : List Char :=
  match line.reverse with
  | '\r' :: rest => rest.reverse
  | _ => line

/-- The lines of a list of characters. -/
def lineChars (cs : List Char) : List (List Char) :=
  let pieces := splitLineFeeds cs
  let closed := pieces.dropLast.map dropCarriageReturn
  match pieces.getLast? with
  | some (c :: rest) => closed ++ [c :: rest]
  | _ => closed

/-- The lines of a text. -/
def lines (s : String) : List String := (lineChars s.toList).map String.ofList

end Workplan.Text
