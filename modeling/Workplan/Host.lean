/-
# `Workplan.Host` — where the units of a manifest run

The verifiers and scripts of a manifest work on the files of a host, and the host compiles the
patterns and globs that verifiers are named by.  Which texts it compiles, and what it says of the
others, is its own affair: checking and registering a manifest only pass it on.

`Host.ofFiles` compiles with the readers of this library.  They know the common part of the syntax
of patterns, and name every fault of a text alike.
-/
import Workplan.Files.Tree
import Workplan.Glob
import Workplan.Pattern.Basic

namespace Workplan

/-- Makes a judgement on texts out of a text, or says why it cannot. -/
abbrev Compiler := String → Except String (String → Bool)

/-- Files, and what compiles patterns and globs. -/
structure Host where
  files : FileTree
  pattern : Compiler
  glob : Compiler

namespace Host

def ofFiles (files : FileTree) : Host where
  files
  pattern text := ((Pattern.parse text).map Pattern.Automaton.occursIn).mapError PatternError.message
  glob text := ((Glob.parse text).map Glob.accepts).mapError GlobError.message

/-- A host whose current directory is empty. -/
def fresh : Host := ofFiles .fresh

end Host

end Workplan
