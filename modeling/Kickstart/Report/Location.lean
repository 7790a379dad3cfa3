/-
# Kickstart.Report.Location -- the line number in a location line

A validator's report names the place of a problem in a line that holds `on line `,
a run of decimal digits and ` of`.  The first place where that stands decides: the
digits there are any Unicode digits, but they only name a line when they are ASCII
and the number fits into 32 bits.  A line whose first match names no line is no
location line, even if a later match would.
-/
import Kickstart.Text.Digit

namespace Kickstart.Report

set_option autoImplicit false

/-- What stands before the number. -/
def lead : Text := "on line ".toList

/-- What stands after the number. -/
def trail : Text := " of".toList

/-- The digits of a match at the very start of the text. -/
def digitsHere? (t : Text) : Option Text :=
  if lead.isPrefixOf t then
    let (digits, rest) := (t.drop lead.length).span Text.isDigit
    if digits ≠ [] ∧ trail.isPrefixOf rest = true then some digits else none
  else none

/-- The digits of the first match. -/
def digits? : Text → Option Text
  | [] => none
  | c :: rest => (digitsHere? (c :: rest)).or (digits? rest)

/-- The line number, counted from one, that a location line reports. -/
def reportedLine? (t : Text) : Option Nat := (digits? t).bind Text.number32?

end Kickstart.Report
