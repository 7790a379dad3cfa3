/-
# Kickstart.Report.Diagnostic -- problems as editors show them

A `Diagnostic` marks a range of a document with a message.  All diagnostics of this
library are warnings that come from `ksvalidator`.  Editors that can show related
places get one: the same range again, with the remark that the validator considers
the line invalid.
-/
import Kickstart.Document.Position
import Kickstart.Uri.Basic
import Kickstart.Text.Blank

namespace Kickstart

set_option autoImplicit false

/-- How much a diagnostic matters, as editors number it. -/
inductive Severity where
  | error
  | warning
  | information
  | hint
  deriving Repr, DecidableEq

/-- The number editors know a severity by. -/
def Severity.code : Severity → Nat
  | .error => 1
  | .warning => 2
  | .information => 3
  | .hint => 4

/-- A remark at another place. -/
structure RelatedPlace where
  uri : Uri
  range : Range
  message : String
  deriving Repr, DecidableEq

/-- A marked range with a message. -/
structure Diagnostic where
  range : Range
  severity : Severity
  source : String
  message : Text
  related : Option (List RelatedPlace)
  deriving Repr, DecidableEq

namespace Diagnostic

/-- The program that diagnostics come from. -/
def validatorName : String := "ksvalidator"

/-- The remark at a related place. -/
def relatedRemark : String := "ksvalidator considers this line invalid"

/-- The diagnostic for a line, counted from zero; `related` is the document to point
at, for editors that show related places. -/
def ofLine (related : Option Uri) (line : Nat) (message : Text) : Diagnostic :=
  let range := Range.wholeLine line
  { range
    severity := .warning
    source := validatorName
    message
    related := related.map fun uri => [⟨uri, range, relatedRemark⟩] }

end Diagnostic

end Kickstart
