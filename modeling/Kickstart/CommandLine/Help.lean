/-
# Kickstart.CommandLine.Help -- usage and help texts

`usage` is the line that says what may be typed at a level; with what was already given
it is narrowed to that.  `help` is the whole help of a level.  The top level has a long
form, in which every setting has lines of its own; elsewhere both forms are the same.
Settings that are read from variables show what the variables hold.
-/
import Kickstart.CommandLine.Grammar
import Kickstart.Terminal.Marked

namespace Kickstart.CommandLine

set_option autoImplicit false

/-- The variables of the environment, with their values. -/
abbrev Variables := List (String × String)

/-! ## Usage -/

/-- The setting and its value, the name marked. -/
def Setting.marked (s : Setting) : Marked :=
  .as .literal ("--" ++ s.name) ++ (match s.value? with
    | some value => .plain (" " ++ value)
    | none => [])

/-- All that is a level's own, as alternatives. -/
def Level.alternatives (level : Level) : Marked :=
  .plain ("<" ++ String.intercalate "|"
    (level.ownSettings.map Setting.shown ++ (level.operand?.map Operand.name).toList) ++ ">")

/-- What was given at a level, as far as usage shows it. -/
structure Used where
  settings : List Setting
  /-- Files were given. -/
  files : Bool
  /-- What is the level's own is shown as alternatives. -/
  together : Bool
  deriving Repr, DecidableEq

namespace Used

/-- Nothing was given. -/
def nothing : Used := ⟨[], false, false⟩

/-- Settings were given. -/
def only (settings : List Setting) : Used := ⟨settings, false, false⟩

/-- What may be typed at a level, after the words that lead to it. -/
def parts (level : Level) (used : Used) : List Marked :=
  let operand := (level.operand?.map fun o => Marked.plain o.shown).toList
  if used = nothing then
    (if level.settings = [] then [] else [.plain "[OPTIONS]"]) ++ operand ++
      (if level = .top then [.plain "[COMMAND]"] else [])
  else if used.together then
    (used.settings.filter fun s => !level.ownSettings.contains s).map Setting.marked ++
      [level.alternatives]
  else used.settings.map Setting.marked ++ operand

end Used

/-- The usage line of a level, narrowed to what was used. -/
def usage (level : Level) (used : Used) : Marked :=
  .as .heading "Usage:" ++ .plain " " ++
    .joined " " (.as .literal level.invocation :: used.parts level)

/-! ## Help -/

/-- The introduction of the long help. -/
def introduction : List String :=
  ["kickstart-ls - Kickstart language server",
   "",
   "Publishes ksvalidator errors as editor diagnostics and completes Kickstart",
   "commands and their options.",
   "",
   "COMMANDS:",
   "  serve  - Run the language server on stdin/stdout (default)",
   "  lint   - Validate files once and print the problems",
   "  watch  - Re-validate a file whenever it changes",
   "",
   "EXAMPLES:",
   "  kickstart-ls                                   # Start the language server",
   "  kickstart-ls lint anaconda-ks.cfg server.ks    # One-shot validation",
   "  kickstart-ls watch server.ks                   # Validate on every save",
   "  kickstart-ls --validator /usr/local/bin/ksvalidator serve"]

/-- What a setting is for.  Help at the top mentions its other form. -/
def Setting.about (level : Level) (long : Bool) : Setting → String
  | .validator => "Validator program, looked up on PATH unless absolute"
  | .timeout => "Kill a validator run after this many seconds"
  | .logLevel => "Log filter, e.g. `kickstart_ls=debug` (overrides RUST_LOG)"
  | .stdio => "Accepted for editors that always pass it; stdio is the only transport"
  | .help =>
    if level ≠ .top then "Print help"
    else if long then "Print help (see a summary with '-h')"
    else "Print help (see more with '--help')"
  | .version => "Print version"

/-- Where else a setting's value comes from. -/
def Setting.sources (env : Variables) (s : Setting) : List String :=
  (s.envName?.map fun name =>
    "[env: " ++ name ++ "=" ++ (env.lookup name).getD "" ++ "]").toList ++
  (s.default?.map fun value => "[default: " ++ value ++ "]").toList

/-- Dashes, letter, name and value of a setting. -/
def Setting.heading (s : Setting) : Marked :=
  (match s.letter? with
    | some letter =>
      .plain "  " ++ .as .literal ("-" ++ String.singleton letter) ++ .plain ", "
    | none => .plain "      ") ++ s.marked

/-- Some blanks. -/
def blanks (n : Nat) : String := String.ofList (List.replicate n ' ')

/-- A text whose lines after the first are set in. -/
def hanging (indent : Nat) (s : String) : String := s.replace "\n" ("\n" ++ blanks indent)

/-- Lines in two columns, two blanks apart. -/
def columns (rows : List (Marked × String)) : List Marked :=
  let column := (rows.map fun (left, _) => left.width).foldl max 0 + 2
  rows.map fun (left, right) =>
    left ++ .plain (blanks (column - left.width) ++ hanging column right)

/-- Lines under a heading, after an empty line; nothing if there are none. -/
def titled (heading : String) : List Marked → List Marked
  | [] => []
  | lines => [] :: .as .heading heading :: lines

/-- The commands in help. -/
def commandLines (level : Level) : List Marked :=
  if level = .top then
    columns (Level.commands.map fun c => (.plain "  " ++ .as .literal c.name, c.about))
  else []

/-- The files in help. -/
def operandLines (level : Level) : List Marked :=
  columns (level.operand?.map fun o => (.plain ("  " ++ o.shown), o.about)).toList

/-- The settings that help mentions. -/
def Level.shownSettings (level : Level) : List Setting :=
  level.settings.filter fun s => !s.isHidden

/-- The settings in help, one line each. -/
def briefLines (env : Variables) (level : Level) : List Marked :=
  columns (level.shownSettings.map fun s =>
    (s.heading, String.intercalate " " (s.about level false :: s.sources env)))

/-- The settings in help, each with lines of its own. -/
def fullLines (env : Variables) (level : Level) : List Marked :=
  let blocks := level.shownSettings.map fun s =>
    let sources := s.sources env
    let text := s.about level true ++
      (if sources = [] then "" else "\n\n" ++ String.intercalate "\n" sources)
    [s.heading, Marked.plain (blanks 10 ++ hanging 10 text)]
  (blocks.intersperse [[]]).flatten

/-- The help of a level. -/
def help (env : Variables) (level : Level) (long : Bool) : Marked :=
  let full := long && level = .top
  let lines : List Marked :=
    (if full then introduction else [level.about]).map Marked.plain ++ [[], usage level .nothing] ++
      titled "Commands:" (commandLines level) ++
      titled "Arguments:" (operandLines level) ++
      titled "Options:" (if full then fullLines env level else briefLines env level)
  (lines.map fun line => line ++ .plain "\n").flatten

/-- What is printed when the version is asked for. -/
def versionLine : String := programName ++ " " ++ version ++ "\n"

end Kickstart.CommandLine
