/-
# Kickstart.Main -- the program

The outer layer: it collects variables and files, calls the library and prints.  No
other program is started from here, so every validator counts as missing: a server
completes without checking, and linting a file says that the validator cannot be run.
-/
import Kickstart.CommandLine.Run
import Kickstart.Json.Parser
import Kickstart.Server.Frame

namespace Kickstart.Main

set_option autoImplicit false

open CommandLine

/-- The variables that matter. -/
def variableNames : List String :=
  Setting.all.filterMap Setting.envName? ++ ["CLICOLOR_FORCE", "NO_COLOR", "PATH", "TMPDIR"]

/-- The variables that are there. -/
def readVariables : IO Variables :=
  variableNames.filterMapM fun name => do return (← IO.getEnv name).map fun value => (name, value)

/-- The files with the one at a path, if it can be read. -/
def load (fs : Files) (path : String) : IO Files := do
  let names := (Path.splitSlash (Path.ofString path).bytes).filter fun name => !name.isEmpty
  try
    let content ← IO.FS.readBinFile path
    return fs.install names (.file content.toList false)
  catch _ => return fs

/-- A validator that is never run. -/
def missing : Behaviour := ⟨.code 1, .code 1, [], .ofSeconds 0⟩

/-- The file that a message is about. -/
def fileOf? (j : Json) : Option String := do
  let document := (j.get "params").get "textDocument"
  let uri ← (Uri.parse (← (document.get "uri").string?)).toOption
  return String.ofList (← Text.decode? (← uri.localPath?))

/-- Reads bytes until there are enough or no more. -/
partial def readBody (input : IO.FS.Stream) (length : Nat) (before : ByteArray) : IO ByteArray := do
  if length ≤ before.size then return before
  let more ← input.read (length - before.size).toUSize
  if more.isEmpty then return before
  readBody input length (before ++ more)

/-- Reads the headers of a frame; `none` at the end of input. -/
partial def readHeaders (input : IO.FS.Stream) (length : Nat) : IO (Option Nat) := do
  let line ← input.getLine
  if line.isEmpty then return none
  if Server.Frame.isEnd line then return some length
  readHeaders input ((Server.Frame.length? line).getD length)

/-- Serves messages until the editor is done. -/
partial def serve (client : Server.Client) (s : Server) (input output : IO.FS.Stream) :
    IO Unit := do
  if s.phase = .gone then return
  let some length ← readHeaders input 0 | return
  let body ← readBody input length .empty
  match (Text.decode? body.toList).bind fun t => Json.parse? (String.ofList t) with
  | none => output.putStr (Server.Frame.render (Server.answer .null (.error .unreadable)))
  | some j =>
    let files ← match fileOf? j with
      | some path => load s.service.files path
      | none => pure s.service.files
    let (sent, s) := { s with service := { s.service with files } }.receive client j
    for frame in sent do output.putStr (Server.Frame.render frame)
    output.flush
    serve client s input output

/-- The files that a task names. -/
def filesOf : Task → List String
  | .serve => []
  | .lint files => files
  | .watch file => [file]

end Kickstart.Main

open Kickstart Kickstart.Main Kickstart.CommandLine in
/-- Reads the command line and does what it asks for. -/
def main (given : List String) : IO UInt32 := do
  let env ← readVariables
  let named := match CommandLine.read env given with
    | .ok i => some i
    | .error _ => none
  let files ← ((named.map fun i => filesOf i.task).getD []).foldlM load ⟨[], []⟩
  let around : Environment := ⟨files, env, missing⟩
  match named with
  | some ⟨.serve, _, _, _⟩ =>
    let notices := (named.map Invocation.notices).getD .empty
    (← IO.getStderr).putStr notices.err
    let surroundings : Surroundings :=
      ⟨⟨false, fun _ => .plain (.ok none)⟩, fun _ => .ok none, temporary env, .none⟩
    serve ⟨surroundings, none⟩ (.start files) (← IO.getStdin) (← IO.getStdout)
    return 0
  | _ =>
    let r := run around given []
    (← IO.getStdout).putStr r.output.out
    (← IO.getStderr).putStr r.output.err
    return r.status.toUInt32
