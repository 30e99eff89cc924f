/-
# `Workplan.Shell.Format` — formatted output

A format is text with escapes and directives.  Each directive takes an argument; the format is
used again as long as arguments are left, and a directive without an argument takes an empty one.
-/
import Workplan.Shell.Escape

namespace Workplan.Shell

/-- A directive of a format. -/
structure Directive where
  left : Bool := false
  zeros : Bool := false
  plus : Bool := false
  space : Bool := false
  marked : Bool := false
  width : Option (Option Nat) := none
  precision : Option (Option Nat) := none
  letter : Char

/-- A piece of a format. -/
inductive FormatPiece where
  | text (bytes : Bytes)
  | directive (d : Directive)
  | unknown (letter : Char)

/-- What formatting gave: the bytes, the complaints, and whether an escape ended the output. -/
structure Formatted where
  bytes : Bytes := []
  complaints : List String := []
  ended : Bool := false

namespace Format

open Escape

/-! ## Reading formats -/

/-- A number or a star that takes it from the arguments; nothing is the number zero. -/
def count (bytes : Bytes) : Option Nat × Bytes :=
  match bytes with
  | b :: rest =>
    if b == byteOf '*' then (none, rest)
    else
      let digits := bytes.takeWhile isDigit
      (some (numeral 10 digits), bytes.drop digits.length)
  | [] => (some 0, [])

/-- The directive after a percent sign, and what follows it. -/
def directive (bytes : Bytes) : FormatPiece × Bytes :=
  let isFlag (b : UInt8) : Bool := [43, 45, 32, 48, 35].contains b
  let flags := bytes.takeWhile isFlag
  let rest := bytes.drop flags.length
  let (width, rest) :=
    match rest with
    | b :: _ =>
      if isDigit b || b == byteOf '*' then
        let (w, after) := count rest
        (some w, after)
      else (none, rest)
    | [] => (none, rest)
  let (precision, rest) :=
    match rest with
    | b :: after =>
      if b == byteOf '.' then
        let (p, after) := count after
        (some p, after)
      else (none, rest)
    | [] => (none, rest)
  let rest := rest.dropWhile fun b => "hlLjzt".toList.any fun c => b == byteOf c
  match rest with
  | [] => (.text [byteOf '%'], [])
  | b :: after =>
    let letter := Char.ofNat b.toNat
    if "sdiuxXocbqf".toList.contains letter then
      (.directive { left := flags.contains 45, zeros := flags.contains 48,
                    plus := flags.contains 43, space := flags.contains 32,
                    marked := flags.contains 35, width, precision, letter }, after)
    else (.unknown letter, after)

/-- The pieces of a format.  The counter is above its length. -/
def pieces : Nat → Bytes → List FormatPiece
  | 0, _ => []
  | _, [] => []
  | n + 1, b :: rest =>
    if b == byteOf '%' then
      if rest.head? == some (byteOf '%') then .text [b] :: pieces n (rest.drop 1)
      else
        let (piece, after) := directive rest
        piece :: pieces n after
    else if b == byteOf '\\' then
      match rest with
      | c :: more =>
        match one .format c more with
        | some (bytes, taken) => .text bytes :: pieces n (rest.drop taken)
        | none => .text [b, c] :: pieces n more
      | [] => [.text [b]]
    else
      let plain := (b :: rest).takeWhile fun x => x != byteOf '%' && x != byteOf '\\'
      .text plain :: pieces n ((b :: rest).drop plain.length)

/-! ## Numbers -/

def ascii (bytes : Bytes) : String := String.ofList (bytes.map fun b => Char.ofNat b.toNat)

/-- The number that an argument denotes, and whether all of the argument denotes it. -/
def integer (bytes : Bytes) : Int × Bool :=
  let cs := bytes.dropWhile fun b => b == 32 || (9 ≤ b && b ≤ 13)
  match cs with
  | [] => (0, true)
  | quote :: c :: _ =>
    if quote == byteOf '\'' || quote == byteOf '"' then (c.toNat, true)
    else
      let negative := quote == byteOf '-'
      let body := if negative || quote == byteOf '+' then cs.drop 1 else cs
      let hex := body.length > 2 && body.head? == some (byteOf '0') &&
        ((body.drop 1).head?.map fun x => x == byteOf 'x' || x == byteOf 'X').getD false
      let (base, body) :=
        if hex then (16, body.drop 2)
        else if body.head? == some (byteOf '0') then (8, body) else (10, body)
      let digits := body.takeWhile fun b =>
        if base == 16 then isHex b else if base == 8 then isOctal b else isDigit b
      let value : Int := numeral base digits
      (if negative then -value else value,
        !digits.isEmpty && digits.length == body.length)
  | [b] => if isDigit b then (digitValue b, true) else (0, false)

/-- A decimal fraction as a numerator over a power of ten, and whether it is one. -/
def fraction (bytes : Bytes) : Bool × Nat × Nat × Bool :=
  let negative := bytes.head? == some (byteOf '-')
  let body := if negative || bytes.head? == some (byteOf '+') then bytes.drop 1 else bytes
  let whole := body.takeWhile isDigit
  let rest := body.drop whole.length
  let (places, rest) :=
    if rest.head? == some (byteOf '.') then
      let ds := (rest.drop 1).takeWhile isDigit
      (ds, rest.drop (ds.length + 1))
    else ([], rest)
  (negative, numeral 10 (whole ++ places), places.length, rest.isEmpty)

/-- A quotient rounded to the nearest number, a half to the even one. -/
def roundHalfEven (num den : Nat) : Nat :=
  let q := num / den
  let r := num % den
  if 2 * r < den || (2 * r == den && q % 2 == 0) then q else q + 1

/-- Digits with a point before the last ones. -/
def withPlaces (digits : List Char) (places : Nat) : List Char :=
  let padded := List.replicate (places + 1 - digits.length) '0' ++ digits
  if places = 0 then padded
  else padded.take (padded.length - places) ++ '.' :: padded.drop (padded.length - places)

/-! ## Output -/

def pad (d : Directive) (width : Nat) (zeros : Bool) (sign body : List Char) : List Char :=
  let missing := width - (sign.length + body.length)
  if d.left then sign ++ body ++ List.replicate missing ' '
  else if zeros then sign ++ List.replicate missing '0' ++ body
  else List.replicate missing ' ' ++ sign ++ body

def padBytes (left : Bool) (width : Nat) (bytes : Bytes) : Bytes :=
  let blanks := List.replicate (width - bytes.length) (byteOf ' ')
  if left then bytes ++ blanks else blanks ++ bytes

/-- A word that reads back as the bytes. -/
def quote (bytes : Bytes) : Bytes :=
  if bytes.isEmpty then bytesOf "''"
  else
    bytes.flatMap fun b =>
      let c := Char.ofNat b.toNat
      if 0x80 ≤ b || c.isAlphanum || "_-./:=@%+,".toList.contains c then [b]
      else [byteOf '\\', b]

/-- The output of a directive on its argument. -/
def render (d : Directive) (width : Nat) (left : Bool) (precision : Option Nat) (arg : Bytes) :
    Formatted :=
  let d := { d with left }
  let complaint (good : Bool) : List String :=
    if good then [] else ["printf: " ++ ascii arg ++ ": invalid number"]
  let cutTo (bytes : Bytes) : Bytes := match precision with
    | some p => bytes.take p
    | none => bytes
  let sign (negative : Bool) : List Char :=
    if negative then ['-'] else if d.plus then ['+'] else if d.space then [' '] else []
  let least (digits : List Char) : List Char :=
    List.replicate ((precision.getD 0) - digits.length) '0' ++ digits
  let unsigned (base : Nat) (mark : String) (upper : Bool) : Formatted :=
    let (v, good) := integer arg
    let digits := Nat.toDigits base (v.emod (0x10000000000000000)).toNat
    let digits := least (if upper then digits.map Char.toUpper else digits)
    let mark := if d.marked && v != 0 then mark.toList else []
    { bytes := bytesOf (String.ofList (pad d width (d.zeros && precision.isNone) mark digits))
      complaints := complaint good }
  match d.letter with
  | 's' => { bytes := padBytes left width (cutTo arg) }
  | 'q' => { bytes := padBytes left width (cutTo (quote arg)) }
  | 'c' => { bytes := padBytes left width (arg.take 1) }
  | 'b' =>
    let (bytes, ended) := expand .argument arg
    { bytes := padBytes left width (cutTo bytes), ended }
  | 'u' => unsigned 10 "" false
  | 'o' => unsigned 8 "0" false
  | 'x' => unsigned 16 "0x" false
  | 'X' => unsigned 16 "0X" true
  | 'f' =>
    let (negative, num, scale, good) := fraction arg
    let places := precision.getD 6
    let rounded := roundHalfEven (num * Nat.pow 10 places) (Nat.pow 10 scale)
    let digits := withPlaces (Nat.toDigits 10 rounded) places
    { bytes := bytesOf (String.ofList (pad d width d.zeros (sign negative) digits))
      complaints := complaint good }
  | _ =>
    let (v, good) := integer arg
    let digits := least (Nat.toDigits 10 v.natAbs)
    let zeros := d.zeros && precision.isNone
    { bytes := bytesOf (String.ofList (pad d width zeros (sign (v < 0)) digits))
      complaints := complaint good }

/-- A count that may come from the arguments, and the arguments that are left. -/
def countOf (c : Option (Option Nat)) (args : List Bytes) : Option Int × List Bytes :=
  match c with
  | none => (none, args)
  | some (some n) => (some n, args)
  | some none => (some (integer (args.head?.getD [])).1, args.drop 1)

/-- One pass through the pieces; what is left are the arguments that were not taken. -/
def pass : List FormatPiece → List Bytes → Formatted × List Bytes
  | [], args => ({}, args)
  | .text bytes :: rest, args =>
    let (f, left) := pass rest args
    ({ f with bytes := bytes ++ f.bytes }, left)
  | .unknown letter :: _, _ =>
    ({ complaints := ["printf: `" ++ String.singleton letter ++ "': invalid format character"]
       ended := true }, [])
  | .directive d :: rest, args =>
    let (width, args) := countOf d.width args
    let (precision, args) := countOf d.precision args
    let out := render d (width.getD 0).natAbs (d.left || (width.getD 0 < 0))
      (precision.bind fun p => if p < 0 then none else some p.toNat) (args.head?.getD [])
    if out.ended then (out, [])
    else
      let (f, left) := pass rest (args.drop 1)
      ({ f with bytes := out.bytes ++ f.bytes, complaints := out.complaints ++ f.complaints }, left)

/-- Passes through the pieces until all arguments are taken. -/
def passes (ps : List FormatPiece) : Nat → List Bytes → Formatted
  | 0, _ => {}
  | n + 1, args =>
    let (f, left) := pass ps args
    if f.ended || left.isEmpty || left.length == args.length then f
    else
      let g := passes ps n left
      { g with bytes := f.bytes ++ g.bytes, complaints := f.complaints ++ g.complaints }

/-- Formats arguments. -/
def apply (format : Bytes) (args : List Bytes) : Formatted :=
  passes (pieces (format.length + 1) format) (args.length + 1) args

end Format

end Workplan.Shell
