/-
# `Workplan.Catalog` — the verifiers that a manifest can name

Four verifiers have names of their own; the name of any other carries what it checks: `pattern:`
and a pattern that must occur in the value, or `glob:` and a glob that the whole value must match.
All but the first accept texts only.  What patterns and globs are is left to the host.
-/
import Workplan.Host
import Workplan.Text.Blank
import Workplan.Verifier

namespace Workplan

/-- Why a name is not in the catalog. -/
inductive CatalogError where
  | unknown (name : String)
  | badPattern (text cause : String)
  | badGlob (text cause : String)
deriving DecidableEq

def CatalogError.message : CatalogError → String
  | .unknown name => "unknown verifier '" ++ name ++ "'"
  | .badPattern text cause => "invalid pattern '" ++ text ++ "': " ++ cause
  | .badGlob text cause => "invalid glob '" ++ text ++ "': " ++ cause

namespace Catalog

/-- A judgement on texts; any other value fails. -/
def onText (judge : String → Verdict) (key : String) (value : Value) (_ : Inputs) : Verdict :=
  match value.asString? with
  | some text => judge text
  | none => .failed (key ++ " must be a string, got " ++ value.typeName)

def ofBool (b : Bool) : Verdict := if b then .accepted else .refused

/-- Refuses null, blank texts and what has no items or fields. -/
def judgeNonEmpty : Value → Verdict
  | .data (.str s) => ofBool (!Text.allBlank s)
  | .data (.arr items) => ofBool (!items.isEmpty)
  | .data (.obj fields) => ofBool (!fields.isEmpty)
  | .data .null => .refused
  | _ => .accepted

def judgeExisting (files : FileTree) (path : String) : Verdict :=
  if files.exists? path then .accepted else .failed (path ++ " does not exist")

/-- A file that can be opened, or a directory. -/
def judgeReadable (files : FileTree) (path : String) : Verdict :=
  match files.get path with
  | .ok _ => .accepted
  | .error e => .failed ("cannot read " ++ path ++ ": " ++ e.message)

/-- Accepts a text that compiles. -/
def judgeCompiled : Except String (String → Bool) → Verdict
  | .ok _ => .accepted
  | .error cause => .failed cause

/-- A text that is a glob, or a pattern after its mark. -/
def judgeFilter (host : Host) (text : String) : Verdict :=
  if text.startsWith "regex:" then judgeCompiled (host.pattern (text.drop 6).toString)
  else judgeCompiled (host.glob text)

def nonEmpty : Verifier := ⟨"non_empty", fun _ value _ => judgeNonEmpty value⟩

def pathExists (host : Host) : Verifier := ⟨"path_exists", onText (judgeExisting host.files)⟩

def readable (host : Host) : Verifier := ⟨"readable", onText (judgeReadable host.files)⟩

def namePattern (host : Host) : Verifier := ⟨"name_pattern", onText (judgeFilter host)⟩

/-- The verifier with a name of its own. -/
def plain? (host : Host) (name : String) : Option Verifier :=
  [nonEmpty, pathExists host, readable host, namePattern host].find? fun v => v.name = name

/-- The verifier that accepts the texts that a compiled one accepts. -/
def matching (name : String) (accepts : String → Bool) : Verifier :=
  ⟨name, onText fun text => ofBool (accepts text)⟩

/-- The verifier that a name stands for on a host. -/
def resolve (host : Host) (name : String) : Except CatalogError Verifier :=
  if name.startsWith "pattern:" then
    let text := (name.drop 8).toString
    match host.pattern text with
    | .ok occurs => .ok (matching name occurs)
    | .error cause => .error (.badPattern text cause)
  else if name.startsWith "glob:" then
    let text := (name.drop 5).toString
    match host.glob text with
    | .ok accepts => .ok (matching name accepts)
    | .error cause => .error (.badGlob text cause)
  else
    match plain? host name with
    | some v => .ok v
    | none => .error (.unknown name)

end Catalog

end Workplan
