/-
# Kickstart.Completion.Snippet -- text with places to fill in

A snippet is text with numbered tab stops.  A stop shows a sample value or lets the
user choose one of several.  In an editor's notation a stop is a dollar sign and,
between braces, its number with either a colon and the sample, or the values
between bars.  `Snippet.render` writes that form.
-/

namespace Kickstart

set_option autoImplicit false

/-- One part of a snippet. -/
inductive Snippet.Part where
  /-- Text as it is. -/
  | text (s : String)
  /-- A tab stop with a sample value. -/
  | stop (number : Nat) (sample : String)
  /-- A tab stop with values to choose from. -/
  | oneOf (number : Nat) (values : List String)
  deriving Repr, DecidableEq

/-- Text with tab stops. -/
abbrev Snippet := List Snippet.Part

namespace Snippet

/-- The written form of a part. -/
def Part.render : Part → String
  | .text s => s
  | .stop number sample => "$\x7b" ++ toString number ++ ":" ++ sample ++ "\x7d"
  | .oneOf number values =>
    "$\x7b" ++ toString number ++ "|" ++ String.intercalate "," values ++ "|\x7d"

/-- The written form of a snippet. -/
def render (s : Snippet) : String := String.join (s.map Part.render)

/-- An option without a value. -/
def flag (name : String) : Snippet := [.text name]

/-- An argument of its own, shown as a sample. -/
def sample (number : Nat) (s : String) : Snippet := [.stop number s]

/-- An option with a value, shown as a sample. -/
def value (option sample : String) : Snippet := [.text (option ++ "="), .stop 1 sample]

/-- An option with a value to choose. -/
def choice (option : String) (values : List String) : Snippet :=
  [.text (option ++ "="), .oneOf 1 values]

end Snippet

end Kickstart
