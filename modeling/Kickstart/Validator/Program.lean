/-
# Kickstart.Validator.Program -- the validator as a program

The validator is a program that is started with `--` and the path of a file.  It is
looked up in the directories of a search path unless its name holds a slash; what is
found there but cannot be started is passed over.  A run that ends well means the file
is clean; after any other end, also by a signal, what it wrote on its error channel is
the report, damaged bytes shown as U+FFFD.  A run may have a time limit.  A program that
answers `--help` well is available.

Some signals do not end a process.  A program that sends itself one of these where it
should end goes on: after the answer to `--help` it checks its arguments like any
others, and after that there is nothing left to do and it ends well.
-/
import Kickstart.Lint

namespace Kickstart

set_option autoImplicit false

/-- How a process ends. -/
inductive Exit where
  | code (n : Nat)
  | signal (n : Nat)
  deriving Repr, DecidableEq

namespace Exit

/-- Signals that do not end a process: none at all, a child's end, going on, urgent data
and a new window size. -/
def harmlessSignals : List Nat := [0, 17, 18, 23, 28]

/-- It does not end the process after all. -/
def isHarmless : Exit → Bool
  | .code _ => false
  | .signal n => harmlessSignals.contains n

/-- It ended well. -/
def isSuccess : Exit → Bool
  | .code n => n % 256 = 0
  | .signal n => harmlessSignals.contains n

end Exit

/-- How an installed program behaves. -/
structure Behaviour where
  /-- How it ends when asked for help. -/
  help : Exit
  /-- How it ends when given a file. -/
  check : Exit
  /-- What it then writes on its error channel. -/
  errors : Bytes
  /-- How long it takes before it does anything. -/
  delay : Duration

/-- The validator program as it was asked for. -/
structure Program where
  path : Path
  limit : Option Duration
  /-- The directories in which it is looked up. -/
  search : List Path

namespace Program

/-- The program used when none is named. -/
def standard : String := "ksvalidator"

/-- The arguments that a file is checked with. -/
def arguments (p : Path) : List Text := ["--".toList, p.text]

/-- The argument that asks for help. -/
def helpArgument : Text := "--help".toList

/-- The search path when none is given: one directory without programs stands for all. -/
def usualSearch : List Path := [⟨[Path.slash]⟩]

/-- The search path that a text gives, with colons between the directories. -/
def searchOf (s : String) : List Path := (Text.splitAt ':' s.toList).map .ofText

/-- The file that is run when a path is started. -/
def executable (fs : Files) (p : Path) : Except IoFault Place :=
  match fs.canonical p with
  | .error fault => .error fault
  | .ok place =>
    match fs.get? place with
    | some (.file _ true) => .ok place
    | _ => .error (.system .denied)

/-- The first program of that name in some directories.  Without one it counts whether
any could not be started. -/
def lookUp (fs : Files) (name : Name) (denied : Bool) : List Path → Except IoFault Place
  | [] => .error (.system (if denied then .denied else .notFound))
  | directory :: rest =>
    let path := if directory.bytes = [] then name else directory.bytes ++ Path.slash :: name
    match executable fs ⟨path⟩ with
    | .ok place => .ok place
    | .error (.system .denied) => lookUp fs name true rest
    | .error (.system .notFound) => lookUp fs name denied rest
    | .error (.system .notDirectory) => lookUp fs name denied rest
    | .error fault => .error fault

/-- Starting the program fails, or leads to the file that is run. -/
def locate (fs : Files) (p : Program) : Except IoFault Place :=
  let name := p.path.bytes
  if name.contains 0 then .error .nulInArgument
  else if name.contains Path.slash then executable fs p.path
  else if name = [] then .error (.system .notFound)
  else if Files.longestName < name.length then .error (.system .nameTooLong)
  else lookUp fs name false p.search

/-- Asks the program for help: whether that ends well, and whether the program came to
look at its arguments as if they named a file. -/
def probe (fs : Files) (behaviour : Behaviour) (p : Program) : Bool × Bool :=
  match p.locate fs with
  | .ok _ =>
    if behaviour.help.isHarmless then (behaviour.check.isSuccess, true)
    else (behaviour.help.isSuccess, false)
  | .error _ => (false, false)

/-- Asking the program for help ends well. -/
def available (fs : Files) (behaviour : Behaviour) (p : Program) : Bool :=
  (p.probe fs behaviour).1

/-- A run with that delay is cut off by that limit.  No program is done at once. -/
def isCutOff (delay limit : Duration) : Bool :=
  limit.nanoseconds ≤ delay.nanoseconds

/-- A run: its verdict, and whether the program came to look at its arguments. -/
def check (fs : Files) (behaviour : Behaviour) (p : Program) (file : Path) : Verdict × Bool :=
  let started :=
    if file.bytes.contains 0 then .error .nulInArgument else p.locate fs
  match started with
  | .error fault => (.error (.spawn p.path.text fault), false)
  | .ok _ =>
    match p.limit.filter (isCutOff behaviour.delay) with
    | some limit => (.error (.timeout limit), false)
    | none =>
      (.ok (if behaviour.check.isSuccess then none else some (Text.decodeLossy behaviour.errors)),
        true)

/-- The program as a validator, at a time when these are the files. -/
def validator (fs : Files) (behaviour : Behaviour) (p : Program) : Validator where
  available := p.available fs behaviour
  judge _ := .plain (p.check fs behaviour ⟨[]⟩).1

/-- The machine on which files are checked with the program. -/
def machine (behaviour : Behaviour) (p : Program) : Machine Files where
  files := id
  withFiles _ fs := fs
  run fs file := ((p.check fs behaviour file).1, fs)

end Program

end Kickstart
