/-
# `Workplan.Files.Tree` — a tree of files

A tree holds directories and files under absolute paths, and the name of the directory that
relative paths start from.  Paths are resolved component by component: each step but the last must
be a directory.  Every operation either succeeds or names the reason as the operating system
does.
-/

namespace Workplan

/-- The components of an absolute path. -/
abbrev Path := List String

/-- What stands under a path. -/
inductive FileNode where
  | directory
  | file (content : ByteArray)
  | null

/-- Why an operation on files failed. -/
inductive FileError where
  | notFound
  | notDirectory
  | isDirectory
  | exists
  | nameTooLong
  | nulInName
  | notText
deriving DecidableEq

/-- The message of the operating system. -/
def FileError.message : FileError → String
  | .notFound => "No such file or directory (os error 2)"
  | .notDirectory => "Not a directory (os error 20)"
  | .isDirectory => "Is a directory (os error 21)"
  | .exists => "File exists (os error 17)"
  | .nameTooLong => "File name too long (os error 36)"
  | .nulInName => "file name contained an unexpected NUL byte"
  | .notText => "stream did not contain valid UTF-8"

/-- The message without the number of the error, as tools write it. -/
def FileError.brief : FileError → String
  | .notFound => "No such file or directory"
  | .notDirectory => "Not a directory"
  | .isDirectory => "Is a directory"
  | .exists => "File exists"
  | .nameTooLong => "File name too long"
  | .nulInName => "Invalid argument"
  | .notText => "Invalid argument"

/-- Directories and files under absolute paths, and the current directory. -/
structure FileTree where
  nodes : List (Path × FileNode)
  current : Path

namespace FileTree

/-- The directories and devices that every tree has. -/
def system : List (Path × FileNode) :=
  [([], .directory), (["bin"], .directory), (["dev"], .directory), (["dev", "null"], .null),
    (["etc"], .directory), (["home"], .directory), (["lib"], .directory), (["opt"], .directory),
    (["proc"], .directory), (["root"], .directory), (["sys"], .directory), (["tmp"], .directory),
    (["usr"], .directory), (["usr", "bin"], .directory), (["usr", "lib"], .directory),
    (["usr", "local"], .directory), (["usr", "share"], .directory), (["var"], .directory),
    (["var", "tmp"], .directory), (["tmp", "work"], .directory)]

/-- A tree whose current directory is empty. -/
def fresh : FileTree := ⟨system, ["tmp", "work"]⟩

instance : Inhabited FileTree := ⟨fresh⟩

/-- The node under a resolved path. -/
def node? (t : FileTree) (p : Path) : Option FileNode :=
  (t.nodes.find? fun e => e.1 == p).map Prod.snd

/-- The components that a path is written with. -/
def components (path : String) : List String :=
  ((path.toList.splitOn '/').map String.ofList).filter fun c => !c.isEmpty && c != "."

/-- Goes one component down, or up for two points. -/
def enter (t : FileTree) (p : Path) (name : String) : Except FileError Path :=
  match t.node? p with
  | none => .error .notFound
  | some .directory =>
    if name = ".." then .ok p.dropLast
    else if 255 < name.utf8ByteSize then .error .nameTooLong
    else .ok (p ++ [name])
  | some _ => .error .notDirectory

/-- The path without repetitions and detours.  All of its nodes but the last exist. -/
def resolve (t : FileTree) (path : String) : Except FileError Path :=
  if path.toList.contains '\x00' then .error .nulInName
  else if path.isEmpty then .error .notFound
  else
    let start := if path.startsWith "/" then [] else t.current
    (components path).foldlM t.enter start

/-- A path that can only name a directory, by the way it is written. -/
def namesDirectory (path : String) : Bool :=
  path.endsWith "/" || path.endsWith "/." || path = "."

/-- The node that a path leads to. -/
def get (t : FileTree) (path : String) : Except FileError FileNode := do
  let p ← t.resolve path
  match t.node? p with
  | none => .error .notFound
  | some .directory => .ok .directory
  | some n => if namesDirectory path then .error .notDirectory else .ok n

def exists? (t : FileTree) (path : String) : Bool := (t.get path).toOption.isSome

def isDirectory (t : FileTree) (path : String) : Bool :=
  match t.get path with
  | .ok .directory => true
  | _ => false

/-- The bytes of a file. -/
def readBytes (t : FileTree) (path : String) : Except FileError ByteArray := do
  match ← t.get path with
  | .directory => .error .isDirectory
  | .file content => .ok content
  | .null => .ok .empty

/-- The text of a file. -/
def readText (t : FileTree) (path : String) : Except FileError String := do
  match String.fromUTF8? (← t.readBytes path) with
  | some s => .ok s
  | none => .error .notText

/-- Puts a node under a resolved path. -/
def setNode (t : FileTree) (p : Path) (n : FileNode) : FileTree :=
  if t.nodes.any fun e => e.1 == p then
    { t with nodes := t.nodes.map fun e => if e.1 == p then (p, n) else e }
  else { t with nodes := t.nodes ++ [(p, n)] }

/-- Removes a node and everything below it. -/
def removeNode (t : FileTree) (p : Path) : FileTree :=
  { t with nodes := t.nodes.filter fun e => !p.isPrefixOf e.1 }

/-- Changes the content of a file, which is created where there is none. -/
def modify (t : FileTree) (path : String) (change : ByteArray → ByteArray) :
    Except FileError FileTree := do
  let p ← t.resolve path
  match t.node? p with
  | some .directory => .error .isDirectory
  | some .null => if namesDirectory path then .error .notDirectory else .ok t
  | some (.file content) =>
    if namesDirectory path then .error .notDirectory
    else .ok (t.setNode p (.file (change content)))
  | none =>
    if namesDirectory path then .error .isDirectory
    else
      match t.node? p.dropLast with
      | some .directory => .ok (t.setNode p (.file (change .empty)))
      | some _ => .error .notDirectory
      | none => .error .notFound

/-- Writes a file from its beginning. -/
def write (t : FileTree) (path : String) (content : ByteArray) : Except FileError FileTree :=
  t.modify path fun _ => content

/-- Writes at the end of a file. -/
def append (t : FileTree) (path : String) (content : ByteArray) : Except FileError FileTree :=
  t.modify path fun old => old ++ content

/-- Makes the directories of a path from left to right; what exists is left as it is. -/
def makeEach (t : FileTree) (p : Path) : List String → Except FileError (FileTree × Path)
  | [] => .ok (t, p)
  | name :: rest => do
    let p ← t.enter p name
    match t.node? p with
    | some _ => t.makeEach p rest
    | none => (t.setNode p .directory).makeEach p rest

/-- Makes a directory and those above it; one that exists is left as it is. -/
def makeDirectories (t : FileTree) (path : String) : Except FileError FileTree :=
  if path.toList.contains '\x00' then .error .nulInName
  else do
    let start := if path.startsWith "/" then [] else t.current
    let (made, p) ← t.makeEach start (components path)
    match made.node? p with
    | some .directory => .ok made
    | _ => .error .exists

/-- The paths below the current directory, directories closed by a slash, in order. -/
def listing (t : FileTree) : List String :=
  (t.nodes.filterMap fun e =>
    if t.current.isPrefixOf e.1 && t.current.length < e.1.length then
      let path := "/".intercalate (e.1.drop t.current.length)
      match e.2 with
      | .directory => some (path ++ "/")
      | _ => some path
    else none).mergeSort fun a b => decide (a ≤ b)

/-- The names in a directory, in order. -/
def namesIn (t : FileTree) (p : Path) : List String :=
  (t.nodes.filterMap fun e =>
    if e.1.length = p.length + 1 && p.isPrefixOf e.1 then e.1.getLast? else none).mergeSort
      fun a b => decide (a ≤ b)

/-- Joins a directory and a name. -/
def joinPath (directory name : String) : String :=
  if name.startsWith "/" || directory.isEmpty then name
  else if directory.endsWith "/" then directory ++ name
  else directory ++ "/" ++ name

end FileTree

end Workplan
