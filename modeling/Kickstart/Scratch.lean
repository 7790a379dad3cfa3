/-
# Kickstart.Scratch -- scratch workspaces

The validator reads files only, so a buffer is copied into a fresh directory before
a run.  A workspace is a directory of its own under a root, with a name nobody else
has; `create` picks the first one that is free of everything at or under it, and starts
looking wherever its caller says, so that a name need not be used again.  The
buffer goes into one input file.  Closing removes the directory with all it holds,
and a directory that is already gone counts as closed.
-/
import Kickstart.Files.Tree

namespace Kickstart

set_option autoImplicit false

/-- A directory that one validation owns. -/
structure Scratch where
  place : Place
  deriving Repr, DecidableEq

namespace Scratch

/-- The name of the input file in a workspace. -/
def inputName : Name := "ksvalidator-input.ks".toList.flatMap Text.encodeChar

/-- What the names of workspaces start with. -/
def stem : Text := "kickstart-ls-".toList

/-- Six hexadecimal digits of a number. -/
def sixDigits (n : Nat) : Text :=
  (List.range 6).reverse.map fun i => Nat.digitChar (n / Nat.pow 16 i % 16)

/-- The name that a number stands for. -/
def name (n : Nat) : Name := Text.encode (stem ++ sixDigits n)

/-- Nothing is at the place or under it. -/
def isFree (fs : Files) (p : Place) : Bool := fs.entries.all fun (q, _) => !p.within q

/-- The first free place for a workspace under a root, from the name of a number on. -/
def freePlace? (fs : Files) (root : Place) (seed : Nat) : Option Place :=
  ((List.range (fs.entries.length + 1)).map fun n => root ++ [name (seed + n)]).find? (isFree fs)

/-- Makes a workspace under a root, the root's path resolved first.  `Files` has no links, so that
to resolve a path is to follow its dots.  The system has to accept the workspace's path; a fault
tells it. -/
def create (fs : Files) (root : Path) (seed : Nat) : Except IoFault (Scratch × Files) := do
  let root ← fs.canonical root
  match freePlace? fs root seed with
  | none => throw (.systemAt .present (Place.text root))
  | some place =>
    match fs.locate (.ofPlace place) with
    | .ok _ => return (⟨place⟩, fs.put place .directory)
    | .error fault => throw (fault.atPath (Place.text place))

/-- The place of the input file. -/
def inputPlace (s : Scratch) : Place := s.place ++ [inputName]

/-- The path of the input file. -/
def inputPath (s : Scratch) : Path := .ofPlace s.inputPlace

/-- Writes the buffer to the input file. -/
def writeInput (fs : Files) (s : Scratch) (text : Text) : Except IoFault Files :=
  fs.write s.inputPath text.encode

/-- Removes a directory with all it holds; one that is gone is no error. -/
def destroy (fs : Files) (p : Path) : Files × Except IoFault Unit :=
  match fs.removeDirectory p with
  | (fs, .ok ()) => (fs, .ok ())
  | (fs, .error fault) => (fs, if fault.isNotFound then .ok () else .error fault)

/-- Closes a workspace; a fault tells its path. -/
def close (fs : Files) (s : Scratch) : Except IoFault Files :=
  match destroy fs (.ofPlace s.place) with
  | (fs, .ok ()) => .ok fs
  | (_, .error fault) => .error (fault.atPath (Place.text s.place))

/-- Lets a workspace go: removed if that can be done. -/
def drop (fs : Files) (s : Scratch) : Files :=
  match close fs s with
  | .ok fs => fs
  | .error _ => fs

end Scratch

end Kickstart
