/-
# Kickstart.Decimal.Shortest -- the fewest digits that read back

`Binary64.digits` gives the decimal digits and the power of ten of a positive
number: of all decimals that round to it, one with the fewest digits, and of those
the nearest.  It tries one digit, two digits and so on; at each count the only
candidates are the two neighbours of the number on the grid of that many digits,
because when any decimal of that length rounds back, one of these does.  The nearer one
alone would not do: below a power of two the numbers lie closer together than above it.
Seventeen digits always suffice.

`Binary64.render` lays those digits out: positional from 10^-5 up to but not
including 10^16, with `.0` for a whole number; otherwise one digit, the others
after a point, and a signed exponent.
-/
import Kickstart.Decimal.Binary64
import Kickstart.Text.Blank

namespace Kickstart.Decimal.Binary64

set_option autoImplicit false

/-- The greatest `e` with `10 ^ e ≤ num / den`, for positive numbers. -/
def tenLog (num den : Nat) : Int :=
  if den ≤ num then ((Nat.toDigits 10 (num / den)).length : Int) - 1
  else
    let k := (Nat.toDigits 10 (den / num)).length
    if den = num * Nat.pow 10 (k - 1) then -((k : Int) - 1) else -(k : Int)

/-- The whole numbers next to the ratio times `10 ^ shift`, the nearer one first. -/
def atScale (num den : Nat) (shift : Int) : Nat × Nat :=
  let n := num * Nat.pow 10 shift.toNat
  let d := den * Nat.pow 10 (-shift).toNat
  let nearer := roundDiv n d
  (nearer, if nearer = n / d then nearer + 1 else nearer - 1)

/-- The number that `whole · 10 ^ -shift` rounds to. -/
def readBack (whole : Nat) (shift : Int) : Binary64 :=
  ofRatio (whole * Nat.pow 10 (-shift).toNat) (Nat.pow 10 shift.toNat)

/-- The first digit count from `count` on with a candidate that reads back; `tries`
bounds the search. -/
def search (x : Binary64) (count tries : Nat) : Nat × Int :=
  let (num, den) := x.ratio
  let shift : Int := (count : Int) - 1 - tenLog num den
  let (nearer, farther) := atScale num den shift
  match tries with
  | 0 => (nearer, shift)
  | tries + 1 =>
    if readBack nearer shift = x then (nearer, shift)
    else if readBack farther shift = x then (farther, shift)
    else search x (count + 1) tries

/-- Digits without trailing zeros. -/
def significant (digits : Text) : Text := (digits.reverse.dropWhile (· = '0')).reverse

/-- The digits of a positive number and the power of ten of the first one. -/
def digits (x : Binary64) : Text × Int :=
  let (whole, shift) := search x 1 16
  let all := Nat.toDigits 10 whole
  (significant all, (all.length : Int) - 1 - shift)

/-- The text of a non-negative number. -/
def render (x : Binary64) : Text :=
  if x.mantissa = 0 then ['0', '.', '0']
  else
    let (ds, e) := x.digits
    if 0 ≤ e ∧ e < 16 then
      let whole := e.toNat + 1
      ds.take whole ++ List.replicate (whole - ds.length) '0' ++
        '.' :: (if ds.length ≤ whole then ['0'] else ds.drop whole)
    else if -5 ≤ e ∧ e < 0 then
      '0' :: '.' :: List.replicate ((-e).toNat - 1) '0' ++ ds
    else
      ds.take 1 ++ (if ds.length ≤ 1 then [] else '.' :: ds.drop 1) ++
        'e' :: (if e < 0 then '-' else '+') :: Nat.toDigits 10 e.natAbs

end Kickstart.Decimal.Binary64
