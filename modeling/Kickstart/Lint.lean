/-
# Kickstart.Lint -- checking files once

`checkFile` runs the validator on a file and lists what it finds.  A run that rejects
the file always counts: when its report names no line, the whole report is one
problem, and when even that is blank, the rejection itself is.

`lint` checks files in order and stops at the first one that cannot be checked.  It
succeeds when all files are clean; otherwise it fails with the number of problems.
What is printed follows from what was checked (`LintRun.output`).

Both work over a `Machine`: files, and a way to run the validator on one that may
change the machine's state.
-/
import Kickstart.Report.Parser
import Kickstart.Terminal.Style
import Kickstart.Validator.Basic

namespace Kickstart

set_option autoImplicit false

/-- Files and a validator, over a state that runs may change. -/
structure Machine (σ : Type) where
  files : σ → Files
  withFiles : σ → Files → σ
  run : σ → Path → Verdict × σ

/-- One problem of a file, with its line, counted from one, when it is known. -/
structure Problem where
  line : Option Nat
  message : Text
  deriving Repr, DecidableEq

namespace Problem

/-- The problem that a diagnostic shows. -/
def ofDiagnostic (d : Diagnostic) : Problem := ⟨some (d.range.start.line + 1), d.message⟩

/-- What stands for a report without any words. -/
def rejection : Text := "ksvalidator rejected the file".toList

/-- The problems in a report of a run that rejected its file. -/
def ofReport (report : Text) : List Problem :=
  match Report.diagnostics report none with
  | [] =>
    let raw := report.trim
    [⟨none, if raw = [] then rejection else raw⟩]
  | found => found.map ofDiagnostic

end Problem

/-- What became of checking one file: the problems or a failure, and whether the
validator was run. -/
structure Checked (σ : Type) where
  result : Except Failure (List Problem)
  ran : Bool
  state : σ

/-- Checks one file. -/
def checkFile {σ : Type} (m : Machine σ) (s : σ) (p : Path) : Checked σ :=
  if (m.files s).exists? p then
    match m.run s p with
    | (.error failure, s) => ⟨.error failure, true, s⟩
    | (.ok none, s) => ⟨.ok [], true, s⟩
    | (.ok (some report), s) => ⟨.ok (Problem.ofReport report), true, s⟩
  else ⟨.error (.io (.absent p.text)), false, s⟩

/-- What linting a list of files did. -/
structure LintRun (σ : Type) where
  /-- The files that were checked, with their problems. -/
  checked : List (Path × List Problem)
  /-- The files the validator was run on. -/
  runs : List Path
  /-- Why a file could not be checked. -/
  failure : Option Failure
  state : σ

/-- Checks files in order, up to the first that cannot be checked. -/
def lint {σ : Type} (m : Machine σ) (s : σ) : List Path → LintRun σ
  | [] => ⟨[], [], none, s⟩
  | p :: rest =>
    let c := checkFile m s p
    let ran := if c.ran then [p] else []
    match c.result with
    | .error failure => ⟨[], ran, some failure, c.state⟩
    | .ok problems =>
      let later := lint m c.state rest
      { later with checked := (p, problems) :: later.checked, runs := ran ++ later.runs }

/-! ## What is printed -/

/-- The lines about one file. -/
def problemLines (colours : Bool) (p : Path) (problems : List Problem) : Output :=
  let name := String.ofList p.text
  if problems = [] then .line (Style.paint colours [.green] "✅" ++ " " ++ name)
  else
    .line (Style.paint colours [.red] "❌" ++ " " ++ Style.paint colours [.bold] name ++ " (" ++
      toString problems.length ++ " problem(s))") ++
    .all (problems.map fun problem =>
      .line ("   " ++ name ++
        (match problem.line with
          | some line => ":" ++ Style.paint colours [.yellow] (toString line)
          | none => "") ++
        ": " ++ String.ofList problem.message))

namespace LintRun

variable {σ : Type}

/-- How many problems there are, a file listed twice counting twice. -/
def total (r : LintRun σ) : Nat :=
  r.checked.foldr (fun (_, problems) n => problems.length + n) 0

/-- Success, or why there is none. -/
def result (r : LintRun σ) : Except Failure Unit :=
  match r.failure with
  | some failure => .error failure
  | none => if r.total = 0 then .ok () else .error (.lintFailed r.total)

/-- What linting prints. -/
def output (r : LintRun σ) (colours : Bool) : Output :=
  .line (Style.paint colours [.bold, .green] "🔍 Linting kickstart files") ++ .line "" ++
    .all (r.checked.map fun (p, problems) => problemLines colours p problems) ++
    (if r.failure.isSome then .empty
    else if r.total = 0 then
      .line "" ++ .line (Style.paint colours [.bold, .green] "✅ No problems found")
    else .line "")

end LintRun

/-- The machine of a scripted validator: what it removes is removed. -/
def Validator.machine (judge : Text → Conduct) : Machine Files where
  files := id
  withFiles _ fs := fs
  run fs p :=
    let conduct := judge (Validator.seen fs p)
    (conduct.verdict, Validator.settle fs p conduct)

/-- The machine of a validator that does one thing after the other, whatever the file;
when nothing is left it finds no fault. -/
def Machine.ofSequence : Machine (Files × List Conduct) where
  files := Prod.fst
  withFiles s fs := (fs, s.2)
  run s p :=
    match s with
    | (fs, []) => (.ok none, (fs, []))
    | (fs, conduct :: rest) => (conduct.verdict, (Validator.settle fs p conduct, rest))

end Kickstart
