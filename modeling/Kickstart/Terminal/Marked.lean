/-
# Kickstart.Terminal.Marked -- text with marked parts

Help and complaints are text in which some parts have a role: a heading, something to be
typed as it stands, something that is wrong.  On a terminal each role has its styles;
`Marked.width` counts the characters alone, so that columns line up with and without
them.  Without colours what is shown is the visible part of the painted text, so that
escape sequences in the words of a user go as well.
-/
import Kickstart.Terminal.Sequence
import Kickstart.Terminal.Style

namespace Kickstart

set_option autoImplicit false

/-- What a part of a text is. -/
inductive Role where
  | error
  | heading
  /-- To be typed as it stands. -/
  | literal
  /-- Given, and wrong. -/
  | invalid
  /-- What could be given instead. -/
  | valid
  deriving Repr, DecidableEq

/-- The styles of a role. -/
def Role.styles : Role → List Style
  | .error => [.bold, .red]
  | .heading => [.bold, .underlined]
  | .literal => [.bold]
  | .invalid => [.yellow]
  | .valid => [.green]

/-- A piece of text, perhaps with a role. -/
structure Part where
  role : Option Role
  text : String
  deriving Repr, DecidableEq

/-- The text of a part between the sequences of its role. -/
def Part.painted (p : Part) : String :=
  match p.role with
  | some role => Style.layer role.styles p.text
  | none => p.text

/-- Text with marked parts. -/
abbrev Marked := List Part

namespace Marked

/-- A text with one role. -/
def as (role : Role) (s : String) : Marked := [⟨some role, s⟩]

/-- A text without roles. -/
def plain (s : String) : Marked := [⟨none, s⟩]

/-- How many characters there are. -/
def width (m : Marked) : Nat := m.foldl (fun n p => n + p.text.length) 0

/-- The text with its styles. -/
def painted (m : Marked) : String := String.join (m.map Part.painted)

/-- What is printed. -/
def render (colours : Bool) (m : Marked) : String :=
  if colours then m.painted else String.ofList (Terminal.visible m.painted.toList)

/-- Texts with a separator between them. -/
def joined (separator : String) (texts : List Marked) : Marked :=
  (texts.intersperse (plain separator)).flatten

end Marked

end Kickstart
