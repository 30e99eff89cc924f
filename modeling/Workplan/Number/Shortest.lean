/-
# `Workplan.Number.Shortest` — the fewest digits that read back

The reals that round to a binary64 number form an interval, with its ends exactly when the
mantissa is even.  The text of a number is taken from the coarsest decimal grid that has a point
in that interval, and on that grid it is the point nearest to the number, a tie to the even one.
-/
import Workplan.Number.Binary64

namespace Workplan.Binary64

/-- Decimal digits, most significant first, with the power of ten of the first one: `digits` and
`exponent` stand for `d₁.d₂d₃… · 10 ^ exponent`. -/
structure Decimal where
  digits : List Nat
  exponent : Int
deriving DecidableEq

/-- The number of decimal digits of a natural number, one for zero. -/
def digitCount (n : Nat) : Nat := (Nat.toDigits 10 n).length

/-- The power of ten of the first digit of `num / den`, for positive arguments. -/
def leadingExponent (num den : Nat) : Int :=
  if den ≤ num then (digitCount (num / den) : Int) - 1
  else -(digitCount ((den + num - 1) / num - 1) : Int)

/-- Whether the grid point `point · den / num'` lies in the interval of reals that round to a
number with this mantissa, where the number itself stands at `mantissa · step / den`. -/
def roundsTo (mantissa scale step den point : Nat) : Bool :=
  let below := if mantissa = 0x10000000000000 && 0 < scale then 1 else 2
  let low := (4 * mantissa - below) * step
  let high := (4 * mantissa + 2) * step
  let at4 := 4 * point * den
  if mantissa % 2 = 0 then low ≤ at4 && at4 ≤ high else low < at4 && at4 < high

/-- The point of the grid `10 ^ grid` that is nearest to the number among those that round to it,
if one of the number's two neighbours does. -/
def onGrid (mantissa scale : Nat) (grid : Int) : Option Nat :=
  let step := Nat.pow 10 (-grid).toNat <<< scale
  let den := unit * Nat.pow 10 grid.toNat
  let under := mantissa * step / den
  let twice := 2 * (mantissa * step % den)
  let fits := roundsTo mantissa scale step den
  let upper := under + 1
  if fits under && (twice < den || (twice = den && under % 2 = 0) || !fits upper) then some under
  else if fits upper then some upper
  else none

/-- Digits without the zeros at their end. -/
def dropTrailingZeros (ds : List Nat) : List Nat :=
  (ds.reverse.dropWhile (· == 0)).reverse

/-- The decimal digits of a natural number. -/
def digitsOf (n : Nat) : List Nat := (Nat.toDigits 10 n).map fun c => c.toNat - '0'.toNat

/-- Tries grids of more and more digits. -/
def searchGrids (mantissa scale : Nat) (lead : Int) : Nat → Nat → Decimal
  | 0, _ => ⟨[0], 0⟩
  | tries + 1, count =>
    let grid := lead - (count : Int) + 1
    match onGrid mantissa scale grid with
    | some point =>
      if point = 0 then searchGrids mantissa scale lead tries (count + 1)
      else ⟨dropTrailingZeros (digitsOf point), grid + (digitCount point : Int) - 1⟩
    | none => searchGrids mantissa scale lead tries (count + 1)

/-- The fewest digits that read back as the number; zero has the single digit zero. -/
def shortest (x : Binary64) : Decimal :=
  if x.isZero then ⟨[0], 0⟩
  else searchGrids x.mantissa x.scale (leadingExponent x.numerator unit) 18 1

/-- The magnitude in units of `10 ^ -places`, a tie to the even unit. -/
def fixedUnits (x : Binary64) (places : Nat) : Nat :=
  divRound (x.numerator * Nat.pow 10 places) unit

/-- The number with a fixed count of places after the point. -/
def fixedText (x : Binary64) (places : Nat) : String :=
  let units := x.fixedUnits places
  let tail := (Nat.toDigits 10 (units % Nat.pow 10 places))
  let zeros := List.replicate (places - tail.length) '0'
  let sign := if x.negative then "-" else ""
  if places = 0 then sign ++ toString units
  else sign ++ toString (units / Nat.pow 10 places) ++ "." ++ String.ofList (zeros ++ tail)

end Workplan.Binary64
