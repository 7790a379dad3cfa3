/-
# Kickstart.Failure -- everything that can go wrong

One type for the failures of this program, each a cause with what is needed to tell
it.  `Failure.message` is the wording; `Failure.source?` is the fault underneath,
where there is one that has words of its own.
-/
import Kickstart.Duration
import Kickstart.Files.Fault
import Kickstart.Json.Record

namespace Kickstart

set_option autoImplicit false

/-- What can go wrong. -/
inductive Failure where
  /-- A file could not be read, written, made or removed. -/
  | io (fault : IoFault)
  /-- A program could not be started. -/
  | spawn (program : Text) (fault : IoFault)
  /-- A validator run took too long. -/
  | timeout (limit : Duration)
  /-- A settings section is malformed. -/
  | settings (mismatch : Mismatch)
  /-- The editor did not answer a settings query. -/
  | configuration (text : String)
  /-- A URI names no file of this machine. -/
  | notLocal (uri : Uri)
  /-- Files cannot be watched. -/
  | watch (text : String)
  /-- Linting found problems. -/
  | lintFailed (problems : Nat)
  deriving Repr

namespace Failure

/-- The wording of a failure. -/
def message : Failure → String
  | .io fault => "IO error: " ++ fault.message
  | .spawn program fault => "Failed to run " ++ String.ofList program ++ ": " ++ fault.message
  | .timeout limit => "Validator did not finish within " ++ limit.render
  | .settings mismatch => "Invalid settings: " ++ mismatch.message
  | .configuration text => "Configuration request failed: " ++ text
  | .notLocal uri => "Not a local file: " ++ uri.text
  | .watch text => "File watcher error: " ++ text
  | .lintFailed problems => "Lint found " ++ toString problems ++ " problem(s)"

/-- The wording of the fault underneath. -/
def source? : Failure → Option String
  | .io fault => some fault.message
  | .spawn _ fault => some fault.message
  | .settings mismatch => some mismatch.message
  | _ => none

end Failure

end Kickstart
