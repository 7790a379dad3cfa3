/-
# Kickstart.Files.Fault -- what goes wrong with files and programs

The system names its errors by number; each has a fixed wording.  An `IoFault` is
such an error, perhaps with the path it is about, or one of the few faults that are
noticed before the system is asked.
-/
import Kickstart.Text.Quoted

namespace Kickstart

set_option autoImplicit false

/-- An error of the system. -/
inductive SystemError where
  | notFound
  | denied
  | busy
  | present
  | notDirectory
  | isDirectory
  | badArgument
  | nameTooLong
  | notEmpty
  deriving Repr, DecidableEq

namespace SystemError

/-- The number of an error. -/
def number : SystemError → Nat
  | .notFound => 2
  | .denied => 13
  | .busy => 16
  | .present => 17
  | .notDirectory => 20
  | .isDirectory => 21
  | .badArgument => 22
  | .nameTooLong => 36
  | .notEmpty => 39

/-- The system's words for an error. -/
def words : SystemError → String
  | .notFound => "No such file or directory"
  | .denied => "Permission denied"
  | .busy => "Device or resource busy"
  | .present => "File exists"
  | .notDirectory => "Not a directory"
  | .isDirectory => "Is a directory"
  | .badArgument => "Invalid argument"
  | .nameTooLong => "File name too long"
  | .notEmpty => "Directory not empty"

/-- Words and number. -/
def message (e : SystemError) : String := e.words ++ " (os error " ++ toString e.number ++ ")"

end SystemError

/-- What goes wrong with a file or a program. -/
inductive IoFault where
  /-- The system refused. -/
  | system (e : SystemError)
  /-- The system refused, and the path is told. -/
  | systemAt (e : SystemError) (path : Text)
  /-- A file name with a NUL byte. -/
  | nulInName
  /-- A program or an argument with a NUL byte. -/
  | nulInArgument
  /-- A file that was asked for is not there. -/
  | absent (path : Text)
  /-- Anything else, in the words of who noticed it. -/
  | other (text : String)
  deriving Repr, DecidableEq

namespace IoFault

/-- The wording of a fault. -/
def message : IoFault → String
  | .system e => e.message
  | .systemAt e path => e.message ++ " at path " ++ String.ofList path.quote
  | .nulInName => "file name contained an unexpected NUL byte"
  | .nulInArgument => "nul byte found in provided data"
  | .absent path => "File not found: " ++ String.ofList path
  | .other text => text

/-- The fault with the path it is about. -/
def atPath (path : Text) : IoFault → IoFault
  | .system e => .systemAt e path
  | fault => fault

/-- What was asked for is not there. -/
def isNotFound : IoFault → Bool
  | .system .notFound => true
  | .systemAt .notFound _ => true
  | .absent _ => true
  | _ => false

end IoFault

end Kickstart
