/-
# Kickstart.Text.Utf16 -- measuring text in UTF-16 units

Editors count columns in UTF-16 units: one for a scalar value of the basic
plane, two for any other.  `takeUnits n t` is the longest beginning of `t` that
is at most `n` units long, so a column that falls between the two halves of a
surrogate pair means the start of that character.
-/
import Kickstart.Text.Blank

namespace Kickstart.Text

set_option autoImplicit false

/-- UTF-16 units of one scalar value. -/
def unitsOf (c : Char) : Nat := if c.toNat < 0x10000 then 1 else 2

/-- UTF-16 length. -/
def units : Text → Nat
  | [] => 0
  | c :: rest => unitsOf c + units rest

/-- The longest beginning of the text that is at most `n` units long. -/
def takeUnits (n : Nat) : Text → Text
  | [] => []
  | c :: rest => if unitsOf c ≤ n then c :: takeUnits (n - unitsOf c) rest else []

end Kickstart.Text
