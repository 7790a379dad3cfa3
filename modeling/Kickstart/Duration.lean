/-
# Kickstart.Duration -- spans of time

A duration is a number of nanoseconds.  It is shown in the greatest unit of which it
has at least one, seconds, milliseconds, microseconds or nanoseconds, with the rest
as a decimal fraction without trailing zeros.
-/
import Kickstart.Text.Blank

namespace Kickstart

set_option autoImplicit false

/-- A span of time. -/
structure Duration where
  nanoseconds : Nat
  deriving Repr, DecidableEq, Inhabited

namespace Duration

/-- A number of seconds. -/
def ofSeconds (n : Nat) : Duration := ⟨n * 1000000000⟩

/-- A number of milliseconds. -/
def ofMilliseconds (n : Nat) : Duration := ⟨n * 1000000⟩

/-- The digits of a fraction with that many places, without trailing zeros. -/
def fractionDigits (n places : Nat) : Text :=
  let digits := Nat.toDigits 10 n
  let padded := List.replicate (places - digits.length) '0' ++ digits
  if n = 0 then [] else (padded.reverse.dropWhile (· = '0')).reverse

/-- A number of nanoseconds in a unit of `10 ^ places` nanoseconds. -/
def inUnit (n places : Nat) (unit : String) : String :=
  let fraction := fractionDigits (n % Nat.pow 10 places) places
  toString (n / Nat.pow 10 places) ++
    (if fraction = [] then "" else "." ++ String.ofList fraction) ++ unit

/-- The duration in its greatest unit. -/
def render (d : Duration) : String :=
  let n := d.nanoseconds
  if 1000000000 ≤ n then inUnit n 9 "s"
  else if 1000000 ≤ n then inUnit n 6 "ms"
  else if 1000 ≤ n then inUnit n 3 "µs"
  else inUnit n 0 "ns"

end Duration

end Kickstart
