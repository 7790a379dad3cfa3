/-
# Kickstart.CommandLine.Run -- the whole program

What the program does with a command line: it prints help or a complaint, or carries
out a task with the validator that the command line names.  A complaint about the
command line ends with status 2, a task that fails with status 1 and its failure on the
error channel, with the fault underneath.  A server takes messages and sends frames.
Before a task starts, directives of the log filter that cannot be read are told.
-/
import Kickstart.CommandLine.Invocation
import Kickstart.LogFilter
import Kickstart.Server.Dispatch
import Kickstart.Validator.Program
import Kickstart.Watch

namespace Kickstart.CommandLine

set_option autoImplicit false

/-- What the program finds around it. -/
structure Environment where
  files : Files
  env : Variables
  /-- How the validator programs that are installed behave. -/
  behaviour : Behaviour

/-- How the program ends. -/
structure Ending where
  status : Nat
  output : Output
  /-- What a server sent. -/
  frames : List Json

/-- Results are painted when the environment demands it, since output is no terminal. -/
def colours (env : Variables) : Bool :=
  match env.lookup "CLICOLOR_FORCE" with
  | some value => value ≠ "0"
  | none => false

/-- The variable is there and not empty. -/
def isFilled (env : Variables) (name : String) : Bool :=
  (env.lookup name).any fun value => value ≠ ""

/-- Help and complaints are painted when one variable demands it and the other does not
forbid it. -/
def helpColours (env : Variables) : Bool :=
  isFilled env "CLICOLOR_FORCE" && !isFilled env "NO_COLOR"

/-- Lines after the first set in by four blanks. -/
def indented (s : String) : String := s.replace "\n" "\n    "

/-- What is printed about a task that failed. -/
def failureText (f : Failure) : String :=
  "Error: " ++ f.message ++
    (match f.source? with
      | some source => "\n\nCaused by:\n    " ++ indented source
      | none => "") ++ "\n"

/-- The ending of a task. -/
def ending (output : Output) : Except Failure Unit → Ending
  | .ok () => ⟨0, output, []⟩
  | .error f => ⟨1, output ++ ⟨"", failureText f⟩, []⟩

/-- The directory for scratch workspaces. -/
def temporary (env : Variables) : Path := .ofString ((env.lookup "TMPDIR").getD "/tmp")

/-- The directories in which programs are looked up. -/
def searchPath (env : Variables) : List Path :=
  ((env.lookup "PATH").map Program.searchOf).getD Program.usualSearch

/-- The validator that an invocation asks for. -/
def Invocation.program (env : Variables) (i : Invocation) : Program :=
  ⟨.ofString i.validator, i.timeout.map .ofSeconds, searchPath env⟩

/-- What is told about the log filter of an invocation. -/
def Invocation.notices (i : Invocation) : Output :=
  .all ((i.logFilter.map LogFilter.notices).getD [] |>.map .complaint)

/-- Carries out a task. -/
def perform (around : Environment) (i : Invocation) (messages : List Json) : Ending :=
  let program := i.program around.env
  let machine := program.machine around.behaviour
  let painted := colours around.env
  match i.task with
  | .lint files =>
    let r := lint machine around.files (files.map Path.ofString)
    ending (i.notices ++ r.output painted) r.result
  | .watch file =>
    let (output, result) := Watch.run machine painted (.ofString file) around.files []
    ending (i.notices ++ output) result
  | .serve =>
    let surroundings : Surroundings :=
      ⟨program.validator around.files around.behaviour, fun _ => .ok none,
        temporary around.env, .none⟩
    ⟨0, i.notices, (Server.start around.files).converse ⟨surroundings, none⟩ messages⟩

/-- The whole program. -/
def run (around : Environment) (given : List String) (messages : List Json) : Ending :=
  let painted := helpColours around.env
  match read around.env given with
  | .ok i => perform around i messages
  | .error (.help level long) => ⟨0, ⟨(help around.env level long).render painted, ""⟩, []⟩
  | .error .version => ⟨0, ⟨versionLine, ""⟩, []⟩
  | .error (.complaint c) => ⟨2, ⟨"", c.message.render painted⟩, []⟩

end Kickstart.CommandLine
