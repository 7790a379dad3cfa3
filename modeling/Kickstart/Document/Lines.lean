/-
# Kickstart.Document.Lines -- lines of a buffer and positions in it

A buffer is cut into lines at LF, CR, CR LF (one break), VT, FF, NEL, U+2028 and
U+2029.  A line keeps its break, so the lines concatenate to the text, and a text
with `n` breaks has `n + 1` lines.

A position is resolved to an index with `indexOf`: past the last line it is the
end of the text; on a line it is the longest beginning that the column covers, in
UTF-16 units, and never reaches the CR or LF that the line ends with.
`linePrefix?` is the part of the line before the cursor under the same rule.
-/
import Kickstart.Document.Position
import Kickstart.Text.Utf16

namespace Kickstart

set_option autoImplicit false

namespace Lines

/-- A character that ends a line. -/
def isBreak (c : Char) : Bool :=
  let n := c.toNat
  (0x0A ≤ n && n ≤ 0x0D) || n == 0x85 || n == 0x2028 || n == 0x2029

/-- The lines of a text, each with its break; the last line has none. -/
def cut : Text → List Text
  | [] => [[]]
  | '\r' :: '\n' :: rest => ['\r', '\n'] :: cut rest
  | c :: rest =>
    if isBreak c then [c] :: cut rest
    else match cut rest with
      | [] => [[c]]
      | line :: lines => (c :: line) :: lines

/-- Carriage return or line feed. -/
def isReturn (c : Char) : Bool := c = '\n' || c = '\r'

/-- A line up to the CR or LF it ends with. -/
def content (line : Text) : Text := line.takeWhile fun c => !isReturn c

/-- The part of a line that a column covers. -/
def covered (line : Text) (column : Nat) : Text := (content line).takeUnits column

/-- Index of the first character of a line. -/
def startOf (t : Text) (line : Nat) : Nat := ((cut t).take line).flatten.length

/-- Index of a position, clamped to the text and to the content of its line. -/
def indexOf (t : Text) (p : Position) : Nat :=
  match (cut t)[p.line]? with
  | none => t.length
  | some line => startOf t p.line + (covered line p.character).length

/-- The text of a position's line before it, if there is such a line. -/
def linePrefix? (t : Text) (p : Position) : Option Text :=
  (cut t)[p.line]?.map fun line => covered line p.character

end Lines

end Kickstart
