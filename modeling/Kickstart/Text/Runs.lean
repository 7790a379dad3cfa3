/-
# Kickstart.Text.Runs -- tables of characters

A property of characters is given by its runs: closed intervals of code points, in
order.  `inRuns` looks a character up.  Larger tables are written as rows of hexadecimal
numbers, which `hexNumber` reads.
-/
import Kickstart.Text.Blank

namespace Kickstart.Text

set_option autoImplicit false

/-- A character stands in one of the runs. -/
def inRuns (runs : List (Nat × Nat)) (c : Char) : Bool :=
  runs.any fun (first, last) => first ≤ c.toNat && c.toNat ≤ last

/-- The value of an upper-case hexadecimal digit. -/
def hexDigitValue (c : Char) : Nat :=
  if c.isDigit then c.toNat - '0'.toNat else c.toNat - 'A'.toNat + 10

/-- The number that upper-case hexadecimal digits stand for. -/
def hexNumber (s : String) : Nat := s.toList.foldl (fun n c => 16 * n + hexDigitValue c) 0

end Kickstart.Text
