/-
# Kickstart.Document.Position -- places in a text as editors give them

A `Position` is a line and a column, both counted from zero, the column in UTF-16
units.  A `Range` runs from one position to another.  `Range.wholeLine` covers a
line however long it is: its end column is the greatest one there is.
-/

namespace Kickstart

set_option autoImplicit false

/-- A line and a UTF-16 column, both counted from zero. -/
structure Position where
  line : Nat
  character : Nat
  deriving Repr, DecidableEq, Inhabited

/-- From one position to another. -/
structure Range where
  start : Position
  stop : Position
  deriving Repr, DecidableEq, Inhabited

/-- The greatest column. -/
def Position.lastColumn : Nat := 0xFFFFFFFF

/-- The whole of a line, counted from zero. -/
def Range.wholeLine (line : Nat) : Range := ⟨⟨line, 0⟩, ⟨line, Position.lastColumn⟩⟩

end Kickstart
