/-
# `Workplan.Json.Number` — the numbers of JSON data

An integer literal that fits 64 bits, signed or unsigned, is an integer; every other literal is a
binary64 number, the literal `-0` among them.  The two are different values even where they mean
the same number.

Reading a fractional literal keeps the digits that fit 64 bits, lets the others move the point
only, and applies the power of ten by one multiplication or division.  Printing writes the fewest
digits that read back.
-/
import Workplan.Number.Shortest

namespace Workplan

/-- The integers that fit 64 bits, signed or unsigned. -/
def Number.Fits (i : Int) : Prop := -0x8000000000000000 ≤ i ∧ i < 0x10000000000000000

instance (i : Int) : Decidable (Number.Fits i) := by
  unfold Number.Fits
  infer_instance

/-- A number of JSON data. -/
inductive Number where
  | int (value : Int) (fits : Number.Fits value)
  | real (value : Binary64)
deriving DecidableEq

namespace Number

/-- The integer, if it fits. -/
def ofInt? (i : Int) : Option Number := if h : Fits i then some (.int i h) else none

/-- The integer of an unsigned 64-bit word. -/
def ofUInt64 (n : UInt64) : Number :=
  .int n.toNat ⟨by omega, by have := n.toNat_lt; omega⟩

/-- The integer of an unsigned 32-bit word. -/
def ofUInt32 (n : UInt32) : Number :=
  .int n.toNat ⟨by omega, by have := n.toNat_lt; omega⟩

/-- The unsigned 64-bit word that a number is. -/
def toUInt64? : Number → Option UInt64
  | .int i _ => if 0 ≤ i then some i.toNat.toUInt64 else none
  | .real _ => none

/-- The unsigned 32-bit word that a number is. -/
def toUInt32? : Number → Option UInt32
  | .int i _ => if 0 ≤ i && i < 0x100000000 then some i.toNat.toUInt32 else none
  | .real _ => none

/-- The binary64 number that is nearest to a number. -/
def toBinary64? : Number → Option Binary64
  | .int i _ => Binary64.round (i < 0) i.natAbs 1
  | .real x => some x

/-- Equality of numbers of one form; the two zeros of the fractional form are equal. -/
def same : Number → Number → Bool
  | .int a _, .int b _ => a == b
  | .real a, .real b => a.same b
  | _, _ => false

def isZero : Number → Bool
  | .int a _ => a == 0
  | .real x => x.isZero

/-! ## Printing -/

/-- The characters of digits. -/
def digitChars (ds : List Nat) : List Char := ds.map fun d => Char.ofNat ('0'.toNat + d)

/-- The text of an exponent, with its sign only where it is negative or asked for. -/
def intChars (i : Int) : List Char :=
  if i < 0 then '-' :: Nat.toDigits 10 i.natAbs else Nat.toDigits 10 i.natAbs

/-- A magnitude is written with a point from `10 ^ -5` up to, not with, `10 ^ 16`, and at least
one digit after it; outside it has a signed exponent. -/
def decimalChars (d : Binary64.Decimal) : List Char :=
  let cs := digitChars d.digits
  if d.exponent < -5 || 15 < d.exponent then
    let fraction := match cs.tail with
      | [] => []
      | more => '.' :: more
    let sign := if d.exponent < 0 then [] else ['+']
    cs.take 1 ++ fraction ++ 'e' :: sign ++ intChars d.exponent
  else if d.exponent < 0 then
    '0' :: '.' :: List.replicate (d.exponent.natAbs - 1) '0' ++ cs
  else
    let whole := d.exponent.toNat + 1
    let fraction := match cs.drop whole with
      | [] => ['0']
      | more => more
    cs.take whole ++ List.replicate (whole - cs.length) '0' ++ '.' :: fraction

/-- The text of a fractional number. -/
def realChars (x : Binary64) : List Char :=
  let magnitude := decimalChars x.shortest
  if x.negative then '-' :: magnitude else magnitude

/-- The text of a number. -/
def chars : Number → List Char
  | .int i _ => intChars i
  | .real x => realChars x

/-! ## Reading -/

/-- The parts of a number literal. -/
structure Literal where
  negative : Bool
  whole : List Nat
  fraction : List Nat
  exponent : Option Int
deriving DecidableEq

/-- The decimal digits at the front, and the rest. -/
def takeDigits (cs : List Char) : List Nat × List Char :=
  ((cs.takeWhile Char.isDigit).map fun c => c.toNat - '0'.toNat, cs.dropWhile Char.isDigit)

def ofDigits (ds : List Nat) : Nat := ds.foldl (fun n d => 10 * n + d) 0

/-- The digits of an exponent, at least one of them, under a sign. -/
def readPower (negative : Bool) (cs : List Char) : Option (Option Int × List Char) :=
  match takeDigits cs with
  | ([], _) => none
  | (ds, rest) => some (some (if negative then -(ofDigits ds : Int) else ofDigits ds), rest)

/-- An exponent: a mark, an optional sign and at least one digit. -/
def readExponent (cs : List Char) : Option (Option Int × List Char) :=
  match cs with
  | 'e' :: '-' :: r | 'E' :: '-' :: r => readPower true r
  | 'e' :: '+' :: r | 'E' :: '+' :: r => readPower false r
  | 'e' :: r | 'E' :: r => readPower false r
  | _ => some (none, cs)

/-- A point and at least one digit, if there is a point. -/
def readFraction (cs : List Char) : Option (List Nat × List Char) :=
  match cs with
  | '.' :: r =>
    match takeDigits r with
    | ([], _) => none
    | (ds, rest) => some (ds, rest)
  | _ => some ([], cs)

/-- A literal after its sign: no leading zero before another digit. -/
def readUnsigned (negative : Bool) (cs : List Char) : Option (Literal × List Char) := do
  let (whole, afterWhole) := takeDigits cs
  if whole.isEmpty || (whole.head? == some 0 && 1 < whole.length) then none
  else
    let (fraction, afterFraction) ← readFraction afterWhole
    let (exponent, rest) ← readExponent afterFraction
    some (⟨negative, whole, fraction, exponent⟩, rest)

/-- The literal at the front: no sign but a minus. -/
def readLiteral (cs : List Char) : Option (Literal × List Char) :=
  match cs with
  | '-' :: r => readUnsigned true r
  | _ => readUnsigned false cs

/-- Appends digits to a 64-bit significand while they fit, and counts those that do not. -/
def takeFitting (significand : Nat) : List Nat → Nat × Nat
  | [] => (significand, 0)
  | d :: ds =>
    if significand * 10 + d < 0x10000000000000000 then takeFitting (significand * 10 + d) ds
    else (significand, ds.length + 1)

/-- Divides by `10 ^ k`, in steps of the largest power of ten that the format holds. -/
def scaleDown (x : Binary64) (k : Nat) : Option Binary64 :=
  if k ≤ 308 then (Binary64.pow10? k).bind x.div?
  else if x.isZero then some x
  else ((Binary64.pow10? 308).bind x.div?).bind fun y => scaleDown y (k - 308)
termination_by k

/-- Multiplies by a power of ten, in one step; `none` past the largest number. -/
def scaleUp (x : Binary64) (k : Nat) : Option Binary64 :=
  if k ≤ 308 then (Binary64.pow10? k).bind x.mul?
  else if x.isZero then some x
  else none

/-- The fractional number `significand · 10 ^ exponent`. -/
def realOfParts (negative : Bool) (significand : Nat) (exponent : Int) : Option Number := do
  let x ← Binary64.ofNat? significand
  let y ← if exponent < 0 then scaleDown x exponent.natAbs else scaleUp x exponent.natAbs
  some (.real { y with negative := negative })

/-- The number that a literal denotes; `none` if it is out of range. -/
def ofLiteral (l : Literal) : Option Number :=
  let (significand, dropped) := takeFitting 0 l.whole
  if l.fraction.isEmpty && l.exponent.isNone && dropped == 0 then
    if l.negative then
      if 0 < significand && significand ≤ 0x8000000000000000 then ofInt? (-(significand : Int))
      else realOfParts true significand 0
    else ofInt? significand
  else
    let (all, cut) := takeFitting significand l.fraction
    let moved : Int := (dropped : Int) - ((l.fraction.length - cut : Nat) : Int)
    realOfParts l.negative all (moved + l.exponent.getD 0)

/-- The number at the front. -/
def read (cs : List Char) : Option (Number × List Char) := do
  let (literal, rest) ← readLiteral cs
  let number ← ofLiteral literal
  some (number, rest)

end Number

end Workplan
