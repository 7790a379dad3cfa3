/-
# Kickstart.Document.Edit -- changes to a buffer

An editor sends a change either as a range and the text that takes its place, or as
the whole new text.  Changes of a batch apply one after the other, each to what the
ones before it made.  A range whose end lies before its start removes nothing and
inserts at its start.
-/
import Kickstart.Document.Lines

namespace Kickstart

set_option autoImplicit false

/-- One change: the text for a range, or for the whole buffer. -/
structure Edit where
  range : Option Range
  text : Text
  deriving Repr, DecidableEq, Inhabited

/-- The part of a text between two indices replaced. -/
def Text.splice (t : Text) (start stop : Nat) (replacement : Text) : Text :=
  t.take start ++ replacement ++ t.drop stop

namespace Edit

/-- The buffer after the change. -/
def apply (t : Text) (e : Edit) : Text :=
  match e.range with
  | none => e.text
  | some range =>
    let start := Lines.indexOf t range.start
    t.splice start (max start (Lines.indexOf t range.stop)) e.text

/-- The buffer after a batch of changes. -/
def applyAll (t : Text) (edits : List Edit) : Text := edits.foldl apply t

end Edit

end Kickstart
