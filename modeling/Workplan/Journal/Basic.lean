/-
# `Workplan.Journal.Basic` — the journal of runs

A journal is a file of events, one on a line, in a directory of its own.  Appending makes the
directory where it is absent and writes at the end of the file.  Reading skips every line that
holds no event; a file that is not text cannot be read at all.
-/
import Workplan.Files.Tree
import Workplan.Journal.Codec
import Workplan.Text.Lines

namespace Workplan.Journal

/-- The events of the lines of a text. -/
def eventsOf (content : String) : List TimedEvent :=
  (Text.lines content).filterMap TimedEvent.ofText?

/-- The name of the file in its directory. -/
def fileName : String := "runs.jsonl"

/-- The path of the journal in a directory. -/
def path (directory : String) : String := FileTree.joinPath directory fileName

/-- Why a journal cannot be used. -/
inductive Error where
  | noDirectory (directory : String) (cause : FileError)
  | cannotOpen (path : String) (cause : FileError)
  | cannotRead (path : String) (cause : FileError)
deriving DecidableEq

def Error.message : Error → String
  | .noDirectory directory cause => "cannot create state dir " ++ directory ++ ": " ++ cause.message
  | .cannotOpen path cause => "cannot open journal " ++ path ++ ": " ++ cause.message
  | .cannotRead path cause => "cannot read journal " ++ path ++ ": " ++ cause.message

/-- Appends an event to the journal in a directory.  The directory stays where the file cannot be
opened. -/
def append (t : FileTree) (directory : String) (e : TimedEvent) : FileTree × Except Error Unit :=
  match t.makeDirectories directory with
  | .error cause => (t, .error (.noDirectory directory cause))
  | .ok made =>
    match made.append (path directory) (e.text ++ "\n").toUTF8 with
    | .error cause => (made, .error (.cannotOpen (path directory) cause))
    | .ok written => (written, .ok ())

/-- The events of the journal in a directory, none where there is no journal. -/
def read (t : FileTree) (directory : String) : Except Error (List TimedEvent) :=
  if t.exists? (path directory) then
    match t.readText (path directory) with
    | .error cause => .error (.cannotRead (path directory) cause)
    | .ok content => .ok (eventsOf content)
  else .ok []

end Workplan.Journal
