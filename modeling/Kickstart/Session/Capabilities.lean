/-
# Kickstart.Session.Capabilities -- what the server announces

The answer to a handshake says what the server offers.  Completion is always
offered.  Documents are synchronised only when there is a validator to check them
with, and changes of workspace folders are wanted only from an editor that has them.
After the handshake the server may ask to be told of further changes: of the
configuration, and of Kickstart files on disk when they can be checked.
-/
import Kickstart.Session.Features

namespace Kickstart

set_option autoImplicit false

/-- What the server announces. -/
structure Capabilities where
  /-- Open, changed, saved and closed documents are wanted. -/
  documents : Bool
  /-- Changes of workspace folders are wanted. -/
  workspaceFolders : Bool
  deriving Repr, DecidableEq

/-- What the server announces to an editor, with or without a validator. -/
def Capabilities.of (features : Features) (validating : Bool) : Capabilities :=
  ⟨validating, features.workspaceFolders⟩

/-- A change the server asks to be told of. -/
inductive Registration where
  | configuration
  | watchedFiles
  deriving Repr, DecidableEq

namespace Registration

/-- The files whose changes are wanted. -/
def watchPattern : String := "**/*.ks"

/-- What the server asks an editor for after the handshake. -/
def wanted (features : Features) (validating : Bool) : List Registration :=
  (if features.configurationRegistration then [.configuration] else []) ++
    (if validating && features.watchedFilesRegistration then [.watchedFiles] else [])

end Registration

end Kickstart
