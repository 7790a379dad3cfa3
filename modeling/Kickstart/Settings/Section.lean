/-
# Kickstart.Settings.Section -- settings and the section they come from

Two switches decide when a buffer is checked.  Editors keep them in a section of
their configuration, which may leave out any part: what is absent has its default.
`Settings.ofSection` refuses a malformed section as a whole; `ofSectionLossy` takes
the defaults in its place and says so.
-/
import Kickstart.Event

namespace Kickstart

set_option autoImplicit false

/-- When a document is checked besides being opened. -/
structure Settings where
  /-- Check the file when it is saved. -/
  lintOnSave : Bool
  /-- Check the buffer when it is changed. -/
  lintOnChange : Bool
  deriving Repr, DecidableEq

namespace Settings

/-- Check on save, not on change. -/
def default : Settings := ⟨true, false⟩

/-- The fields of the linting part. -/
def lintingFields : List (Json.RecordField Settings) :=
  [.of "lintOnSave" .defaulted Json.readBool fun s b => { s with lintOnSave := b },
   .of "lintOnChange" .defaulted Json.readBool fun s b => { s with lintOnChange := b }]

/-- The linting part of a section. -/
def readLinting : Json → Except Mismatch Settings :=
  Json.readRecord "LintingSettings" lintingFields default

/-- The fields of a section. -/
def sectionFields : List (Json.RecordField Settings) :=
  [.of "linting" .defaulted readLinting fun _ s => s]

/-- The settings of a section; none, or `null`, is the defaults. -/
def ofSection : Option Json → Except Mismatch Settings
  | none => .ok default
  | some .null => .ok default
  | some j => Json.readRecord "ServerSettings" sectionFields default j

/-- The settings of a section, the defaults and a warning if it is malformed. -/
def ofSectionLossy (section? : Option Json) : Settings × List Warning :=
  match ofSection section? with
  | .ok settings => (settings, [])
  | .error mismatch => (default, [.malformedSettings mismatch])

end Settings

end Kickstart
