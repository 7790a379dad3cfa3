/-
# Kickstart.Validator.Basic -- checking a file

A validator looks at a file and comes to a `Verdict`: it finds nothing, or it
rejects the file and reports why, or the run itself fails.  What a run does besides
is part of its `Conduct`: it may leave files in the directory that holds the file, and
it may remove that directory.

A `Validator` is what the service knows of one: whether it can be run at all, and
how it behaves on a file, which depends on the text of the file alone.  A file that
cannot be read as text counts as empty.
-/
import Kickstart.Event
import Kickstart.Files.Tree

namespace Kickstart

set_option autoImplicit false

/-- How a run ends: no report, a report, or a failure of the run. -/
abbrev Verdict := Except Failure (Option Text)

/-- What a run does. -/
structure Conduct where
  verdict : Verdict
  /-- The files it leaves in the directory that holds the file. -/
  leaves : List (Name × Bytes)
  /-- It removes that directory in the end. -/
  removesDirectory : Bool

/-- A run that does nothing but come to a verdict. -/
def Conduct.plain (verdict : Verdict) : Conduct := ⟨verdict, [], false⟩

/-- A validator as its users know it. -/
structure Validator where
  /-- It can be run at all. -/
  available : Bool
  /-- What it does on a file with that text. -/
  judge : Text → Conduct

namespace Validator

/-- The text that a validator finds at a path. -/
def seen (fs : Files) (p : Path) : Text := (fs.readText? p).getD []

/-- The record of a run on a path. -/
def recordOf (fs : Files) (p : Path) : Run := ⟨p.text, fs.exists? p, fs.readText? p⟩

/-- The directory that holds the file at a path. -/
def directoryOf? (fs : Files) (p : Path) : Option Place :=
  match p.parent?.map fs.canonical with
  | some (.ok place) => if fs.get? place = some .directory then some place else none
  | _ => none

/-- The files with some more in a directory. -/
def addFiles (directory : Place) (fs : Files) : List (Name × Bytes) → Files
  | [] => fs
  | (name, content) :: rest =>
    addFiles directory (fs.put (directory ++ [name]) (.file content false)) rest

/-- The files after a run on a path. -/
def settle (fs : Files) (p : Path) (conduct : Conduct) : Files :=
  match directoryOf? fs p with
  | none => fs
  | some directory =>
    let fs := addFiles directory fs conduct.leaves
    if conduct.removesDirectory then fs.removeTree directory else fs

end Validator

/-- A validator given by rules: the first rule whose text a file contains decides. -/
structure Script where
  rules : List (Text × Conduct)
  otherwise : Conduct

namespace Script

/-- What the rules say about a file. -/
def judge (s : Script) (content : Text) : Conduct :=
  match s.rules.find? fun (part, _) => Text.occursIn part content with
  | some (_, conduct) => conduct
  | none => s.otherwise

end Script

end Kickstart
