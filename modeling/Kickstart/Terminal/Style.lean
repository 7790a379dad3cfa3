/-
# Kickstart.Terminal.Style -- text on a terminal

Output is plain text with some parts painted.  Paint is an escape sequence with the
numbers of the styles before the text and a reset after it; without colours the text
stands alone.  `Output` collects what goes to the two channels of a program.
-/

namespace Kickstart

set_option autoImplicit false

/-- A style of painted text. -/
inductive Style where
  | bold
  | dimmed
  | underlined
  | red
  | green
  | yellow
  | cyan
  deriving Repr, DecidableEq

namespace Style

/-- The number of a style. -/
def code : Style → Nat
  | .bold => 1
  | .dimmed => 2
  | .underlined => 4
  | .red => 31
  | .green => 32
  | .yellow => 33
  | .cyan => 36

/-- A text painted in some styles, if there are colours. -/
def paint (colours : Bool) (styles : List Style) (s : String) : String :=
  if colours then
    "\x1b[" ++ String.intercalate ";" (styles.map fun style => toString style.code) ++ "m" ++ s ++
      "\x1b[0m"
  else s

/-- A text painted in some styles, with a sequence for each of them. -/
def layer (styles : List Style) (s : String) : String :=
  String.join (styles.map fun style => "\x1b[" ++ toString style.code ++ "m") ++ s ++ "\x1b[0m"

end Style

/-- What a program wrote. -/
structure Output where
  out : String
  err : String
  deriving Repr, DecidableEq

namespace Output

/-- Nothing. -/
def empty : Output := ⟨"", ""⟩

/-- One output after another. -/
def append (a b : Output) : Output := ⟨a.out ++ b.out, a.err ++ b.err⟩

instance : Append Output := ⟨append⟩

/-- A line of results. -/
def line (s : String) : Output := ⟨s ++ "\n", ""⟩

/-- A line of complaints. -/
def complaint (s : String) : Output := ⟨"", s ++ "\n"⟩

/-- Outputs one after the other. -/
def all (outputs : List Output) : Output := outputs.foldl append empty

end Output

end Kickstart
