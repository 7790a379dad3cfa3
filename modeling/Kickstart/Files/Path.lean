/-
# Kickstart.Files.Path -- paths as programs give them

A `Path` is the bytes a program hands to the system: slashes divide it into names,
it starts at the root when it begins with a slash and at the working directory
otherwise, and it may hold `.` and `..`.  A `Place` is a path that has been followed:
the names from the root down, without dots.  Paths are shown as text with U+FFFD for
bytes that are not UTF-8.
-/
import Kickstart.Text.Utf8

namespace Kickstart

set_option autoImplicit false

/-- The name of a file in its directory. -/
abbrev Name := Bytes

/-- Where a file is: the names from the root down. -/
abbrev Place := List Name

/-- The place as text. -/
def Place.text (p : Place) : Text :=
  if p = [] then ['/'] else p.flatMap fun name => '/' :: Text.decodeLossy name

/-- The place is `top` or lies under it. -/
def Place.within (top p : Place) : Bool := top.isPrefixOf p

/-- A path as a program gives it. -/
structure Path where
  bytes : Bytes
  deriving Repr, DecidableEq, Inhabited

namespace Path

/-- The slash. -/
def slash : UInt8 := 0x2F

/-- The name that means the directory itself. -/
def dot : Name := [0x2E]

/-- The name that means the directory above. -/
def dotDot : Name := [0x2E, 0x2E]

/-- A path given as text. -/
def ofText (t : Text) : Path := ⟨t.encode⟩

/-- A path given as a string. -/
def ofString (s : String) : Path := ofText s.toList

/-- The path as text. -/
def text (p : Path) : Text := Text.decodeLossy p.bytes

/-- The path from the root to a place. -/
def ofPlace (p : Place) : Path :=
  ⟨if p = [] then [slash] else p.flatMap fun name => slash :: name⟩

/-- The path starts at the root. -/
def isAbsolute (p : Path) : Bool := p.bytes.head? = some slash

/-- The pieces between slashes. -/
def splitSlash : Bytes → List Name
  | [] => [[]]
  | b :: rest =>
    if b = slash then [] :: splitSlash rest
    else match splitSlash rest with
      | [] => [[b]]
      | piece :: pieces => (b :: piece) :: pieces

/-- The names in the path. -/
def given (p : Path) : List Name := (splitSlash p.bytes).filter fun name => !name.isEmpty

/-- The names to follow.  A slash at the end asks for a directory, as `.` does. -/
def names (p : Path) : List Name :=
  if p.bytes.getLast? = some slash then p.given ++ [dot] else p.given

/-- The path without its last name; `none` if it has none. -/
def parent? (p : Path) : Option Path :=
  match p.given with
  | [] => none
  | given =>
    let front := given.dropLast
    some (if p.isAbsolute then ofPlace front else ⟨(front.intersperse [slash]).flatten⟩)

end Path

end Kickstart
