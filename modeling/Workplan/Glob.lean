/-
# `Workplan.Glob` — shell globs

A glob is matched against a whole text.  `?` stands for one character, `*` for any characters,
`[…]` and `[!…]` for one character in or out of a set, and `**` for any directories: it must be a
path component of its own.  Separators and leading dots are characters like any others.

A glob is matched from its end: `rows` tells for every suffix of the text whether the remaining
tokens accept it.
-/

namespace Workplan

/-- A member of a bracketed set. -/
inductive GlobRange where
  | single (c : Char)
  | between (first last : Char)
deriving DecidableEq

/-- What a glob is made of. -/
inductive GlobToken where
  | literal (c : Char)
  | anyOne
  | within (set : List GlobRange)
  | outside (set : List GlobRange)
  | anyRun
  | anyDirectories
deriving DecidableEq

/-- A glob that can be matched. -/
structure Glob where
  tokens : List GlobToken
deriving DecidableEq

/-- What is wrong with the text of a glob. -/
inductive GlobFault where
  | range
  | wildcards
  | component
deriving DecidableEq

/-- A fault and the position of the character it is about. -/
structure GlobError where
  position : Nat
  fault : GlobFault
deriving DecidableEq

def GlobFault.message : GlobFault → String
  | .range => "invalid range pattern"
  | .wildcards => "wildcards are either regular `*` or recursive `**`"
  | .component => "recursive wildcards must form a single path component"

def GlobError.message (e : GlobError) : String :=
  "Pattern syntax error near position " ++ toString e.position ++ ": " ++ e.fault.message

namespace Glob

/-! ## Reading -/

/-- The members of a bracketed set: a hyphen between two characters makes a range. -/
def readRanges : List Char → List GlobRange
  | first :: '-' :: last :: rest => .between first last :: readRanges rest
  | c :: rest => .single c :: readRanges rest
  | [] => []

/-- What stands before the first closing bracket, and what stands after it. -/
def untilClose : List Char → Option (List Char × List Char)
  | [] => none
  | ']' :: rest => some ([], rest)
  | c :: rest => (untilClose rest).map fun (before, after) => (c :: before, after)

theorem length_untilClose {cs before after : List Char} (h : untilClose cs = some (before, after)) :
    after.length < cs.length := by
  induction cs generalizing before with
  | nil => simp [untilClose] at h
  | cons c rest ih =>
    unfold untilClose at h
    split at h
    · contradiction
    · simp_all
    · rename_i r eq
      obtain ⟨rfl, rfl⟩ := List.cons.inj eq
      simp only [Option.map_eq_some_iff, Prod.mk.injEq] at h
      obtain ⟨⟨b, a⟩, hba, _, ha⟩ := h
      have : untilClose rest = some (b, after) := by rw [hba]; exact congrArg _ (congrArg _ ha)
      have := ih this
      simp only [List.length_cons]
      omega

/-- The set after an opening bracket, and the rest after the closing one.  The first member may be
the closing bracket itself. -/
def readSet (cs : List Char) :
    Option (GlobToken × { rest : List Char // rest.length < cs.length }) :=
  match cs with
  | '!' :: first :: more =>
    match h : untilClose more with
    | some (before, after) =>
      some (.outside (readRanges (first :: before)),
        ⟨after, by have := length_untilClose h; simp only [List.length_cons]; omega⟩)
    | none => none
  | first :: more =>
    if first = '!' then none
    else
      match h : untilClose more with
      | some (before, after) =>
        some (.within (readRanges (first :: before)),
          ⟨after, by have := length_untilClose h; simp only [List.length_cons]; omega⟩)
      | none => none
  | [] => none

/-- Adds the token for any directories; a run of them after another token counts once. -/
def addDirectories (read : List GlobToken) : List GlobToken :=
  match read with
  | .anyDirectories :: _ :: _ => read
  | _ => .anyDirectories :: read

/-- Reads tokens from a position on; `previous` is the character before it and `read` holds the
tokens so far, last one first. -/
def readFrom (position : Nat) (previous : Option Char) (read : List GlobToken) (cs : List Char) :
    Except GlobError (List GlobToken) :=
  match cs with
  | [] => .ok read.reverse
  | '?' :: rest => readFrom (position + 1) (some '?') (.anyOne :: read) rest
  | '*' :: '*' :: '*' :: _ => .error ⟨position + 2, .wildcards⟩
  | '*' :: '*' :: rest =>
    if previous = none || previous = some '/' then
      match rest with
      | [] => .ok (addDirectories read).reverse
      | '/' :: more => readFrom (position + 3) (some '/') (addDirectories read) more
      | _ => .error ⟨position + 2, .component⟩
    else .error ⟨position - 1, .component⟩
  | '*' :: rest => readFrom (position + 1) (some '*') (.anyRun :: read) rest
  | '[' :: rest =>
    match readSet rest with
    | some (token, ⟨after, _⟩) =>
      readFrom (position + 1 + (rest.length - after.length)) (some ']') (token :: read) after
    | none => .error ⟨position, .range⟩
  | c :: rest => readFrom (position + 1) (some c) (.literal c :: read) rest
termination_by cs.length
decreasing_by all_goals simp_all <;> omega

/-- The glob that a text writes. -/
def parse (text : String) : Except GlobError Glob :=
  (readFrom 0 none [] text.toList).map Glob.mk

/-! ## Matching -/

/-- Whether a bracketed set holds a character. -/
def rangesHold (set : List GlobRange) (c : Char) : Bool :=
  set.any fun
    | .single d => c = d
    | .between first last => first ≤ c && c ≤ last

/-- Whether a token for one character accepts it. -/
def acceptsChar (token : GlobToken) (c : Char) : Bool :=
  match token with
  | .literal d => c = d
  | .anyOne => true
  | .within set => rangesHold set c
  | .outside set => !rangesHold set c
  | .anyRun | .anyDirectories => false

/-- The answers for one more token, from the answers of the tokens after it: one for each suffix
of the text, the empty one last. -/
def row (token : GlobToken) (text : List Char) (after : List Bool) : List Bool :=
  match text, after with
  | c :: rest, here :: more =>
    let below := row token rest more
    match token with
    | .anyRun => (here || below.headD false) :: below
    | .anyDirectories =>
      -- a directory that starts here ends at the next separator, or with the text
      let skipped := if c = '/' then below.headD false else directoryEnd rest more
      (here || skipped) :: below
    | _ => (acceptsChar token c && more.headD false) :: below
  | _, here :: _ =>
    match token with
    | .anyRun | .anyDirectories => [here]
    | _ => [false]
  | _, [] => []
where
  /-- Whether the tokens after a run of directories accept what follows some later separator, or
  nothing at all. -/
  directoryEnd : List Char → List Bool → Bool
    | c :: rest, _ :: more =>
      (c = '/' && more.headD false) || directoryEnd rest more
    | _, last :: _ => last
    | _, [] => false

/-- The answers of a list of tokens, one for each suffix of the text. -/
def rows (text : List Char) : List GlobToken → List Bool
  | [] => List.replicate text.length false ++ [true]
  | token :: rest => row token text (rows text rest)

/-- Whether the glob accepts a text as a whole. -/
def accepts (g : Glob) (text : String) : Bool := (rows text.toList g.tokens).headD false

end Glob

end Workplan
