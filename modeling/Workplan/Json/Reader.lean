/-
# `Workplan.Json.Reader` — reading JSON text

The reader accepts one document with blanks around it and refuses more than 127 nested arrays and
objects, control characters inside strings, lone surrogates, and numbers out of range.  Fields
stay in the order of the text.
-/
import Workplan.Json.Basic

namespace Workplan.Json

/-- The blanks of the format. -/
def isSpace (c : Char) : Bool := c == ' ' || c == '\n' || c == '\t' || c == '\r'

def skipSpace (cs : List Char) : List Char := cs.dropWhile isSpace

/-- The value of a hexadecimal digit of either case. -/
def hexValue (c : Char) : Option Nat :=
  if '0' ≤ c && c ≤ '9' then some (c.toNat - '0'.toNat)
  else if 'a' ≤ c && c ≤ 'f' then some (c.toNat - 'a'.toNat + 10)
  else if 'A' ≤ c && c ≤ 'F' then some (c.toNat - 'A'.toNat + 10)
  else none

/-- Four hexadecimal digits at the front. -/
def readHex4 : List Char → Option (Nat × List Char)
  | a :: b :: c :: d :: rest => do
    let a ← hexValue a
    let b ← hexValue b
    let c ← hexValue c
    let d ← hexValue d
    some (((a * 16 + b) * 16 + c) * 16 + d, rest)
  | _ => none

/-- The character after the mark of a numbered escape: one unit, or two surrogates in a row. -/
def readUnits (cs : List Char) : Option (Char × List Char) := do
  let (high, rest) ← readHex4 cs
  if 0xD800 ≤ high && high < 0xDC00 then
    match rest with
    | '\\' :: 'u' :: more =>
      let (low, rest) ← readHex4 more
      if 0xDC00 ≤ low && low < 0xE000 then
        some (Char.ofNat (0x10000 + (high - 0xD800) * 0x400 + (low - 0xDC00)), rest)
      else none
    | _ => none
  else if 0xDC00 ≤ high && high < 0xE000 then none
  else some (Char.ofNat high, rest)

/-- The rest of a string after its opening quote, with the characters read so far reversed. -/
def readStringFrom : Nat → List Char → List Char → Option (String × List Char)
  | 0, _, _ => none
  | fuel + 1, read, cs =>
    match cs with
    | [] => none
    | '"' :: rest => some (String.ofList read.reverse, rest)
    | '\\' :: 'u' :: rest =>
      match readUnits rest with
      | some (c, more) => readStringFrom fuel (c :: read) more
      | none => none
    | '\\' :: c :: rest =>
      let plain := match c with
        | '"' => some '"'
        | '\\' => some '\\'
        | '/' => some '/'
        | 'b' => some '\x08'
        | 'f' => some '\x0c'
        | 'n' => some '\n'
        | 'r' => some '\r'
        | 't' => some '\t'
        | _ => none
      match plain with
      | some d => readStringFrom fuel (d :: read) rest
      | none => none
    | c :: rest => if c.toNat < 0x20 then none else readStringFrom fuel (c :: read) rest

/-- A string after its opening quote. -/
def readString (cs : List Char) : Option (String × List Char) :=
  readStringFrom (cs.length + 1) [] cs

/-- Cuts a fixed word off the front. -/
def readWord (word : List Char) (value : Json) (cs : List Char) : Option (Json × List Char) :=
  if word.isPrefixOf cs then some (value, cs.drop word.length) else none

mutual

/-- The document at the front, after blanks; `depth` counts the brackets that may still open. -/
def readValue : Nat → Nat → List Char → Option (Json × List Char)
  | 0, _, _ => none
  | fuel + 1, depth, cs =>
    match skipSpace cs with
    | 'n' :: rest => readWord ['u', 'l', 'l'] .null rest
    | 't' :: rest => readWord ['r', 'u', 'e'] (.bool true) rest
    | 'f' :: rest => readWord ['a', 'l', 's', 'e'] (.bool false) rest
    | '"' :: rest => (readString rest).map fun (s, more) => (.str s, more)
    | '[' :: rest =>
      match depth with
      | 0 => none
      | depth + 1 =>
        match skipSpace rest with
        | ']' :: more => some (.arr [], more)
        | _ => (readItems fuel depth [] rest).map fun (js, more) => (.arr js, more)
    | '\x7b' :: rest =>
      match depth with
      | 0 => none
      | depth + 1 =>
        match skipSpace rest with
        | '\x7d' :: more => some (.obj [], more)
        | _ => (readFields fuel depth [] rest).map fun (fs, more) => (.obj fs, more)
    | cs => (Number.read cs).map fun (n, more) => (.num n, more)

/-- The items of an array up to its closing bracket, with those read so far reversed. -/
def readItems : Nat → Nat → List Json → List Char → Option (List Json × List Char)
  | 0, _, _, _ => none
  | fuel + 1, depth, read, cs =>
    match readValue fuel depth cs with
    | none => none
    | some (j, rest) =>
      match skipSpace rest with
      | ',' :: more => readItems fuel depth (j :: read) more
      | ']' :: more => some ((j :: read).reverse, more)
      | _ => none

/-- The fields of an object up to its closing brace, with those read so far reversed. -/
def readFields : Nat → Nat → List (String × Json) → List Char →
    Option (List (String × Json) × List Char)
  | 0, _, _, _ => none
  | fuel + 1, depth, read, cs =>
    match skipSpace cs with
    | '"' :: name =>
      match readString name with
      | none => none
      | some (n, rest) =>
        match skipSpace rest with
        | ':' :: value =>
          match readValue fuel depth value with
          | none => none
          | some (j, rest) =>
            match skipSpace rest with
            | ',' :: more => readFields fuel depth ((n, j) :: read) more
            | '\x7d' :: more => some (((n, j) :: read).reverse, more)
            | _ => none
        | _ => none
    | _ => none

end

/-- The greatest number of arrays and objects inside one another. -/
def maxDepth : Nat := 127

/-- The document that a text holds, as it is written. -/
def parseDocument (text : String) : Option Json :=
  let cs := text.toList
  match readValue (2 * cs.length + 2) maxDepth cs with
  | some (j, rest) => if (skipSpace rest).isEmpty then some j else none
  | none => none

/-- The value that a text denotes. -/
def parse (text : String) : Option Json := (parseDocument text).map canonical

end Workplan.Json
