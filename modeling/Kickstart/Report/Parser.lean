/-
# Kickstart.Report.Parser -- diagnostics from a validator's report

A report is read by lines: LF ends a line, and one CR before it is not part of it.
Empty lines are dropped.  Of the others, a location line (`reportedLine?`) and the
line after it make one problem; a line that is no location is passed over.  A
location line that is the last line has no message and makes no problem.

`diagnostics` keeps the order of the report.  The message is trimmed, the line
number, counted from one in the report, is counted from zero, and line zero is
taken for the first line.
-/
import Kickstart.Report.Diagnostic
import Kickstart.Report.Location

namespace Kickstart.Report

set_option autoImplicit false

/-- The lines that LF ends, and what follows the last LF. -/
def pieces : Text → List Text × Text
  | [] => ([], [])
  | c :: rest =>
    let (lines, tail) := pieces rest
    if c = '\n' then ([] :: lines, tail)
    else match lines with
      | [] => ([], c :: tail)
      | line :: lines => ((c :: line) :: lines, tail)

/-- A line without the one CR that may stand at its end. -/
def dropReturn (line : Text) : Text :=
  if line.getLast? = some '\r' then line.dropLast else line

/-- The lines of a report.  What follows the last LF is a line if it is not empty. -/
def lines (report : Text) : List Text :=
  let (ended, tail) := pieces report
  ended.map dropReturn ++ if tail = [] then [] else [tail]

/-- The lines that say something. -/
def spoken (report : Text) : List Text := (lines report).filter fun l => !l.isEmpty

/-- Reported line numbers with their messages, paired from the front. -/
def pairs : List Text → List (Nat × Text)
  | place :: message :: rest =>
    match reportedLine? place with
    | some n => (n, message) :: pairs rest
    | none => pairs (message :: rest)
  | _ => []

/-- The diagnostic of a reported line and its message. -/
def diagnostic (related : Option Uri) (problem : Nat × Text) : Diagnostic :=
  .ofLine related (problem.1 - 1) problem.2.trim

/-- The diagnostics of a report; `related` is the document they point back at. -/
def diagnostics (report : Text) (related : Option Uri) : List Diagnostic :=
  (pairs (spoken report)).map (diagnostic related)

end Kickstart.Report
