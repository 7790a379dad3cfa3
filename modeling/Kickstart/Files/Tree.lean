/-
# Kickstart.Files.Tree -- files of a machine

`Files` is what a process sees of the disk: the entries there are, each with the
place it is at, and the directory that relative paths start from.  The root is
always a directory.  An entry is a directory or a file; there are no links, so a
place has one path without dots.

Every operation takes a path and follows it name by name (`Files.locate`).  It fails
where a name on the way is missing or no directory, and says so with the system's
error.  What changes is exactly what an operation names: `put` one place, `clear` all
that lies under a place, and `removeTree` a place with all that lies under it.
-/
import Kickstart.Files.Fault
import Kickstart.Files.Path

namespace Kickstart

set_option autoImplicit false

/-- What is at a place. -/
inductive Entry where
  | directory
  | file (content : Bytes) (executable : Bool)
  deriving Repr, DecidableEq

/-- The files of a machine and the directory relative paths start from. -/
structure Files where
  entries : List (Place × Entry)
  here : Place
  deriving Repr, DecidableEq, Inhabited

namespace Files

/-- The entry at a place. -/
def get? (fs : Files) (p : Place) : Option Entry :=
  if p = [] then some .directory else fs.entries.lookup p

/-- Replaces the entry at a place, or adds one at the end. -/
def putEntry (p : Place) (e : Entry) : List (Place × Entry) → List (Place × Entry)
  | [] => [(p, e)]
  | (q, d) :: rest => if q = p then (p, e) :: rest else (q, d) :: putEntry p e rest

/-- The files with that entry at that place. -/
def put (fs : Files) (p : Place) (e : Entry) : Files :=
  { fs with entries := putEntry p e fs.entries }

/-- The files without a place and all that lies under it. -/
def removeTree (fs : Files) (top : Place) : Files :=
  { fs with entries := fs.entries.filter fun (p, _) => !top.within p }

/-- The files without what lies under a place; the place itself is kept. -/
def clear (fs : Files) (top : Place) : Files :=
  { fs with entries := fs.entries.filter fun (p, _) => p = top || !top.within p }

/-- How many entries a directory has. -/
def countIn (fs : Files) (directory : Place) : Nat :=
  (fs.entries.filter fun (p, _) => p ≠ [] && p.dropLast = directory).length

/-! ## Following paths -/

/-- Where a path leads. -/
inductive Spot where
  /-- To something that is there. -/
  | taken (place : Place)
  /-- To a name that is free in a directory that is there. -/
  | free (place : Place)
  deriving Repr, DecidableEq

/-- The most bytes a name may have. -/
def longestName : Nat := 255

/-- The most bytes a path may have. -/
def longestPath : Nat := 4095

/-- Follows names from a place on. -/
def follow (fs : Files) (start : Place) : List Name → Except SystemError Spot
  | [] => .ok (.taken start)
  | name :: rest =>
    match fs.get? start with
    | none => .error .notFound
    | some (.file ..) => .error .notDirectory
    | some .directory =>
      if name = Path.dot then follow fs start rest
      else if name = Path.dotDot then follow fs start.dropLast rest
      else if longestName < name.length then .error .nameTooLong
      else
        let next := start ++ [name]
        if (fs.get? next).isSome then follow fs next rest
        else if rest = [] then .ok (.free next)
        else .error .notFound

/-- Where a path leads, if it can be followed. -/
def locate (fs : Files) (p : Path) : Except IoFault Spot :=
  if p.bytes = [] then .error (.system .notFound)
  else if p.bytes.contains 0 then .error .nulInName
  else if longestPath < p.bytes.length then .error (.system .nameTooLong)
  else (fs.follow (if p.isAbsolute then [] else fs.here) p.names).mapError .system

/-- The place of something that is there. -/
def canonical (fs : Files) (p : Path) : Except IoFault Place := do
  match ← fs.locate p with
  | .taken place => if (fs.get? place).isSome then return place else throw (.system .notFound)
  | .free _ => throw (.system .notFound)

/-- There is something at the path. -/
def exists? (fs : Files) (p : Path) : Bool :=
  match fs.canonical p with
  | .ok _ => true
  | .error _ => false

/-! ## Operations -/

/-- The content of a file. -/
def read (fs : Files) (p : Path) : Except IoFault Bytes := do
  match fs.get? (← fs.canonical p) with
  | some (.file content _) => return content
  | some .directory => throw (.system .isDirectory)
  | none => throw (.system .notFound)

/-- The text of a file, if it is there and holds UTF-8. -/
def readText? (fs : Files) (p : Path) : Option Text :=
  match fs.read p with
  | .ok content => Text.decode? content
  | .error _ => none

/-- The files after a file was written: made, or its content replaced. -/
def write (fs : Files) (p : Path) (content : Bytes) : Except IoFault Files := do
  match ← fs.locate p with
  | .free place => return fs.put place (.file content false)
  | .taken place =>
    match fs.get? place with
    | some (.file _ executable) => return fs.put place (.file content executable)
    | some .directory => throw (.system .isDirectory)
    | none => throw (.system .notFound)

/-- The files after an empty directory was removed.  The last name of the path has to be
the directory's own: dots name it only from within. -/
def removeEmpty (fs : Files) (p : Path) : Except IoFault Files := do
  let place ← fs.canonical p
  match p.given.getLast? with
  | none => throw (.system .busy)
  | some last =>
    if last = Path.dot then throw (.system .badArgument)
    else if last = Path.dotDot then throw (.system .notEmpty)
    else return fs.removeTree place

/-- Removes a directory with all it holds: first what it holds, then the directory.  When
only the second fails, what it held is gone all the same; a path that leads nowhere any
more then is no failure. -/
def removeDirectory (fs : Files) (p : Path) : Files × Except IoFault Unit :=
  match fs.canonical p with
  | .error fault => (fs, .error fault)
  | .ok place =>
    match fs.get? place with
    | some .directory =>
      let cleared := fs.clear place
      match cleared.removeEmpty p with
      | .ok removed => (removed, .ok ())
      | .error fault => (cleared, if fault.isNotFound then .ok () else .error fault)
    | _ => (fs, .error (.system .notDirectory))

/-- The files with a directory at a place and at all places above it. -/
def makeDirectories (fs : Files) (p : Place) : Files :=
  (List.range p.length).foldl
    (fun fs n =>
      let top := p.take (n + 1)
      if (fs.get? top).isSome then fs else fs.put top .directory)
    fs

/-- The files with an entry at a place, directories made as needed. -/
def install (fs : Files) (p : Place) (e : Entry) : Files :=
  (fs.makeDirectories p.dropLast).put p e

/-- The files after a file was removed; nothing happens if there is none. -/
def removeFile (fs : Files) (p : Place) : Files :=
  match fs.get? p with
  | some (.file ..) => fs.removeTree p
  | _ => fs

/-- A place moved along when `source` becomes `target`. -/
def moved (source target p : Place) : Place :=
  if source.within p then target ++ p.drop source.length else p

/-- The files after something was moved over what was at the target. -/
def rename (fs : Files) (source target : Place) : Files :=
  if (fs.get? source).isNone ∨ source = target then fs
  else
    let cleared := fs.removeTree target
    { cleared with entries := cleared.entries.map fun (p, e) => (moved source target p, e) }

end Files

end Kickstart
