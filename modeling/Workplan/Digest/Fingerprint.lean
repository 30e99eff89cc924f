/-
# `Workplan.Digest.Fingerprint` — fingerprints of texts and of lists of texts

A fingerprint is a BLAKE3 digest with the name of the function in front.  The components of a list
are each closed by a NUL before they are hashed, so that no two lists of NUL-free texts are fed to
the hash as the same bytes.
-/
import Workplan.Digest.Blake3

namespace Workplan.Digest

/-- The digest of a text, with the name of the function. -/
def ofText (text : String) : String :=
  "blake3:" ++ Blake3.hex text.toUTF8.toList

/-- What stands for a list of components: each one closed by a NUL. -/
def joined : List String → String
  | [] => ""
  | c :: rest => c ++ "\x00" ++ joined rest

/-- The bytes that the fingerprint of a list of components hashes. -/
def bytesOf (components : List String) : List UInt8 := (joined components).toUTF8.toList

/-- The fingerprint of a list of components. -/
def ofComponents (components : List String) : String :=
  "blake3:" ++ Blake3.hex (bytesOf components)

/-- A step of a plan pinned to a version. -/
def pinned (step : String × String) : String := step.1 ++ "@" ++ step.2

/-- The components of a plan: its target, then its steps with their versions. -/
def planComponents (target : String) (steps : List (String × String)) : List String :=
  target :: steps.map pinned

/-- The fingerprint of a plan. -/
def ofPlan (target : String) (steps : List (String × String)) : String :=
  ofComponents (planComponents target steps)

end Workplan.Digest
