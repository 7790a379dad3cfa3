/-
# Kickstart.Decimal.Binary64 -- nearest binary64 of a quotient

A non-negative finite binary64 is `mantissa · 2 ^ exponent`.  `ofRatio` rounds a
quotient of natural numbers to the nearest one, a tie going to the even mantissa,
in exact arithmetic.  The mantissa it gives lies between 2^52 and 2^53, or is
smaller and the exponent is the least one, so equal numbers have equal forms.
-/

namespace Kickstart.Decimal

set_option autoImplicit false

/-- A non-negative finite binary64, `mantissa · 2 ^ exponent`. -/
structure Binary64 where
  mantissa : Nat
  exponent : Int
  deriving Repr, DecidableEq

/-- The ratio rounded to a whole number, a tie to the even neighbour. -/
def roundDiv (num den : Nat) : Nat :=
  let whole := num / den
  let rest := 2 * (num % den)
  if rest < den then whole
  else if rest > den then whole + 1
  else whole + whole % 2

namespace Binary64

/-- The quotient `num / (den · 2 ^ exponent)` as numerator and denominator. -/
def scaled (num den : Nat) (exponent : Int) : Nat × Nat :=
  (num * Nat.pow 2 (-exponent).toNat, den * Nat.pow 2 exponent.toNat)

/-- The nearest binary64 of `num / den`. -/
def ofRatio (num den : Nat) : Binary64 :=
  if num = 0 ∨ den = 0 then ⟨0, 0⟩
  else
    let guess : Int := (num.log2 : Int) - (den.log2 : Int) - 52
    let (n, d) := scaled num den guess
    let exponent := max (if n / d < 0x10000000000000 then guess - 1 else guess) (-1074)
    let (n, d) := scaled num den exponent
    let mantissa := roundDiv n d
    if mantissa = 0x20000000000000 then ⟨0x10000000000000, exponent + 1⟩ else ⟨mantissa, exponent⟩

/-- The number as a quotient of natural numbers. -/
def ratio (x : Binary64) : Nat × Nat :=
  (x.mantissa * Nat.pow 2 x.exponent.toNat, Nat.pow 2 (-x.exponent).toNat)

/-- The sum, rounded. -/
def add (x y : Binary64) : Binary64 :=
  ofRatio (x.ratio.1 * y.ratio.2 + y.ratio.1 * x.ratio.2) (x.ratio.2 * y.ratio.2)

/-- The quotient, rounded. -/
def div (x y : Binary64) : Binary64 :=
  ofRatio (x.ratio.1 * y.ratio.2) (x.ratio.2 * y.ratio.1)

/-- One number is less than another. -/
def less (x y : Binary64) : Bool := x.ratio.1 * y.ratio.2 < y.ratio.1 * x.ratio.2

/-- The binary64 nearest to a natural number. -/
def ofNat (n : Nat) : Binary64 := ofRatio n 1

end Binary64

end Kickstart.Decimal
