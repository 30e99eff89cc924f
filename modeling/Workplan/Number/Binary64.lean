/-
# `Workplan.Number.Binary64` — finite binary64 numbers in exact arithmetic

A number is a sign, a mantissa and a scale, and stands for `± mantissa · 2 ^ scale / 2 ^ 1074`.
Every operation is exact arithmetic on natural numbers followed by one rounding to the nearest
representable number, ties to the even mantissa; a result too large for the format is `none`.
-/

namespace Workplan

/-- The pairs that stand for a number, each number once: full precision, or the least scale. -/
def Binary64.Canonical (mantissa scale : Nat) : Prop :=
  mantissa < 0x20000000000000 ∧ scale ≤ 2045 ∧ (scale = 0 ∨ 0x10000000000000 ≤ mantissa)

instance (mantissa scale : Nat) : Decidable (Binary64.Canonical mantissa scale) := by
  unfold Binary64.Canonical
  infer_instance

/-- A finite binary64 number; zero has two signs. -/
structure Binary64 where
  negative : Bool
  mantissa : Nat
  scale : Nat
  canonical : Binary64.Canonical mantissa scale
deriving DecidableEq

namespace Binary64

/-- Zero with the given sign. -/
def zero (negative : Bool) : Binary64 := ⟨negative, 0, 0, by decide⟩

instance : Inhabited Binary64 := ⟨zero false⟩

def isZero (x : Binary64) : Bool := x.mantissa == 0

/-- The magnitude as a numerator over `unit`. -/
def numerator (x : Binary64) : Nat := x.mantissa <<< x.scale

/-- The denominator of every magnitude. -/
def unit : Nat := 1 <<< 1074

/-- Equality of the numbers meant: the two zeros are one number. -/
def same (x y : Binary64) : Bool := (x.isZero && y.isZero) || x == y

/-- The number with this mantissa and scale, if the pair is canonical. -/
def mk? (negative : Bool) (mantissa scale : Nat) : Option Binary64 :=
  if h : Canonical mantissa scale then some ⟨negative, mantissa, scale, h⟩ else none

/-- The quotient rounded to the nearest natural number, a tie to the even one. -/
def divRound (num den : Nat) : Nat :=
  let q := num / den
  let twice := 2 * (num % den)
  if twice < den then q
  else if twice > den then q + 1
  else q + q % 2

/-- The number nearest to `num / den`, a tie to the even mantissa; `none` past the largest. -/
def round (negative : Bool) (num den : Nat) : Option Binary64 :=
  let n := num * unit
  let scale := (n / den).log2 + 1 - 53
  let mantissa := divRound n (den <<< scale)
  if mantissa = 0x20000000000000 then mk? negative 0x10000000000000 (scale + 1)
  else mk? negative mantissa scale

/-- The number nearest to a natural number. -/
def ofNat? (n : Nat) : Option Binary64 := round false n 1

/-- The product, rounded once. -/
def mul? (x y : Binary64) : Option Binary64 :=
  round (x.negative != y.negative) (x.numerator * y.numerator) (unit * unit)

/-- The quotient, rounded once; `none` also for the divisor zero. -/
def div? (x y : Binary64) : Option Binary64 :=
  if y.isZero then none else round (x.negative != y.negative) x.numerator y.numerator

/-- The number nearest to a power of ten. -/
def pow10? (k : Nat) : Option Binary64 := ofNat? (Nat.pow 10 k)

end Binary64

end Workplan
