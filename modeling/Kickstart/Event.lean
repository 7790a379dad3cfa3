/-
# Kickstart.Event -- what a service does that others can see

Handling a message does four kinds of things outside the service's own state: it
runs the validator, publishes diagnostics, queries the editor for settings and
warns.  Each is an `Event`, and handling gives them in the order in which they
happen.
-/
import Kickstart.Failure
import Kickstart.Report.Diagnostic

namespace Kickstart

set_option autoImplicit false

/-- Something out of the ordinary that is logged. -/
inductive Warning where
  | malformedSettings (mismatch : Mismatch)
  | settingsUnanswered (uri : Uri) (failure : Failure)
  | unknownDocument (uri : Uri)
  | validationFailed (uri : Uri) (failure : Failure)
  | repeatedHandshake
  | validatorMissing
  | registrationRefused (text : String)
  deriving Repr

/-- The settings section that configures the service. -/
def settingsSection : String := "kickstartLanguageSupport"

/-- The wording of a warning. -/
def Warning.message : Warning → String
  | .malformedSettings mismatch =>
    "Ignoring malformed " ++ settingsSection ++ " settings: " ++
      (Failure.settings mismatch).message
  | .settingsUnanswered uri failure =>
    "Falling back to default settings for " ++ uri.text ++ ": " ++ failure.message
  | .unknownDocument uri => "Change for unknown document " ++ uri.text
  | .validationFailed uri failure =>
    "Validation of " ++ uri.text ++ " failed: " ++ failure.message
  | .repeatedHandshake => "Ignoring repeated initialize request"
  | .validatorMissing => "ksvalidator not found, linting disabled"
  | .registrationRefused text => "Dynamic registration failed: " ++ text

/-- A run of the validator: the path it was given and what was there. -/
structure Run where
  path : Text
  present : Bool
  content : Option Text
  deriving Repr, DecidableEq

/-- Diagnostics that replace all earlier ones of a document; the version is that of
the buffer they belong to, if they belong to one. -/
structure Publication where
  uri : Uri
  diagnostics : List Diagnostic
  version : Option Int
  deriving Repr, DecidableEq

/-- What handling does that others can see. -/
inductive Event where
  | ran (run : Run)
  | published (publication : Publication)
  | queried (scope : Uri)
  | warned (warning : Warning)
  deriving Repr

namespace Event

/-- The validator runs among events. -/
def runs (events : List Event) : List Run :=
  events.filterMap fun
    | .ran run => some run
    | _ => none

/-- The publications among events. -/
def publications (events : List Event) : List Publication :=
  events.filterMap fun
    | .published publication => some publication
    | _ => none

/-- The scopes of the queries among events. -/
def queries (events : List Event) : List Uri :=
  events.filterMap fun
    | .queried scope => some scope
    | _ => none

/-- The warnings among events. -/
def warnings (events : List Event) : List Warning :=
  events.filterMap fun
    | .warned warning => some warning
    | _ => none

end Event

end Kickstart
