/-
# `Workplan.Shell.Escape` — escapes of the backslash

Quotes after a dollar sign, formats, arguments of formats and printed texts all know escapes, with
small differences: how an octal number is introduced, which characters may be hidden, and whether
an escape can end the output.
-/
import Workplan.Shell.Syntax

namespace Workplan.Shell

/-- Where escapes stand. -/
inductive EscapePlace where
  | quote
  | format
  | argument
  | echo
deriving DecidableEq

namespace Escape

def isOctal (b : UInt8) : Bool := byteOf '0' ≤ b && b ≤ byteOf '7'

def isDigit (b : UInt8) : Bool := byteOf '0' ≤ b && b ≤ byteOf '9'

def isHex (b : UInt8) : Bool :=
  isDigit b || (byteOf 'a' ≤ b && b ≤ byteOf 'f') || (byteOf 'A' ≤ b && b ≤ byteOf 'F')

/-- The value of a digit of any base up to 36. -/
def digitValue (b : UInt8) : Nat :=
  if isDigit b then b.toNat - '0'.toNat
  else if byteOf 'a' ≤ b then b.toNat - 'a'.toNat + 10
  else b.toNat - 'A'.toNat + 10

/-- The value of a numeral. -/
def numeral (base : Nat) (digits : Bytes) : Nat :=
  digits.foldl (fun n b => n * base + digitValue b) 0

/-- The control character that a letter stands for. -/
def control? (b : UInt8) : Option UInt8 :=
  match Char.ofNat b.toNat with
  | 'a' => some 7
  | 'b' => some 8
  | 'e' => some 27
  | 'E' => some 27
  | 'f' => some 12
  | 'n' => some 10
  | 'r' => some 13
  | 't' => some 9
  | 'v' => some 11
  | '\\' => some 92
  | _ => none

/-- Whether a backslash before this quoting character vanishes. -/
def hides (place : EscapePlace) (b : UInt8) : Bool :=
  place != .echo && (b == byteOf '\'' || b == byteOf '"' || b == byteOf '?')

/-- The bytes of a character; one that is not ASCII stays an escape, with all its digits. -/
def character (code : Nat) : Bytes :=
  if code < 0x80 then [code.toUInt8]
  else
    let letter := if code < 0x10000 then 'u' else 'U'
    let width := if code < 0x10000 then 4 else 8
    let digits := (Nat.toDigits 16 code).map Char.toUpper
    bytesOf (String.ofList ('\\' :: letter ::
      (List.replicate (width - digits.length) '0' ++ digits)))

/-- What an escape stands for, and how many bytes after the backslash it takes; none if it ends
all output. -/
def one (place : EscapePlace) (b : UInt8) (rest : Bytes) : Option (Bytes × Nat) :=
  match control? b with
  | some c => some ([c], 1)
  | none =>
    if hides place b then some ([b], 1)
    else if b == byteOf 'c' && (place == .echo || place == .argument) then none
    else if b == byteOf '0' && (place == .echo || place == .argument) then
      let digits := (rest.take 3).takeWhile isOctal
      some ([(numeral 8 digits).toUInt8], 1 + digits.length)
    else if isOctal b && place != .echo then
      let digits := ((b :: rest).take 3).takeWhile isOctal
      some ([(numeral 8 digits).toUInt8], digits.length)
    else
      let limit :=
        if b == byteOf 'x' then 2 else if b == byteOf 'u' then 4
        else if b == byteOf 'U' then 8 else 0
      let digits := (rest.take limit).takeWhile isHex
      if digits.isEmpty then some ([byteOf '\\', b], 1)
      else if limit == 2 then some ([(numeral 16 digits).toUInt8], 1 + digits.length)
      else some (character (numeral 16 digits), 1 + digits.length)

/-- The bytes of a text with escapes, and whether an escape ended it.  The counter is above the
length of the text. -/
def expandUpTo (place : EscapePlace) : Nat → Bytes → Bytes × Bool
  | 0, _ => ([], false)
  | _, [] => ([], false)
  | n + 1, b :: rest =>
    match b == byteOf '\\', rest with
    | true, c :: more =>
      match one place c more with
      | none => ([], true)
      | some (bytes, taken) =>
        let (tail, ended) := expandUpTo place n (rest.drop taken)
        (bytes ++ tail, ended)
    | _, _ =>
      let (tail, ended) := expandUpTo place n rest
      (b :: tail, ended)

/-- The bytes of a text with escapes, and whether an escape ended it. -/
def expand (place : EscapePlace) (bytes : Bytes) : Bytes × Bool :=
  expandUpTo place (bytes.length + 1) bytes

end Escape

end Workplan.Shell
