/-
# Kickstart.CommandLine.Grammar -- what may be said on the command line

A command line has levels: what stands before the name of a command belongs to the
top, what follows to that command.  Four settings are understood at every level; some
take a value, and some are also read from a variable of the environment.  Help can be
asked for everywhere, the version at the top only.  Two commands take files.
-/
import Kickstart.Text.Similarity

namespace Kickstart.CommandLine

set_option autoImplicit false

/-- The program's own name. -/
def programName : String := "kickstart-ls"

/-- The program's version. -/
def version : String := "0.3.0"

/-- What can be set or asked for with two dashes. -/
inductive Setting where
  | validator
  | timeout
  | logLevel
  | stdio
  | help
  | version
  deriving Repr, DecidableEq

namespace Setting

/-- All settings, in the order in which they are declared. -/
def all : List Setting := [.validator, .timeout, .logLevel, .stdio, .help, .version]

/-- The name after the two dashes. -/
def name : Setting → String
  | .validator => "validator"
  | .timeout => "validator-timeout"
  | .logLevel => "log-level"
  | .stdio => "stdio"
  | .help => "help"
  | .version => "version"

/-- The letter after a single dash. -/
def letter? : Setting → Option Char
  | .help => some 'h'
  | .version => some 'V'
  | _ => none

/-- What its value is called, if it takes one. -/
def value? : Setting → Option String
  | .validator => some "<VALIDATOR>"
  | .timeout => some "<SECS>"
  | .logLevel => some "<FILTER>"
  | _ => none

/-- The setting and its value, as usage shows them. -/
def shown (s : Setting) : String :=
  "--" ++ s.name ++ (match s.value? with
    | some value => " " ++ value
    | none => "")

/-- The variable that is read when the setting is not given. -/
def envName? : Setting → Option String
  | .validator => some "KICKSTART_LS_VALIDATOR"
  | .timeout => some "KICKSTART_LS_VALIDATOR_TIMEOUT"
  | .logLevel => some "KICKSTART_LS_LOG"
  | _ => none

/-- The value when nothing is given. -/
def default? : Setting → Option String
  | .validator => some "ksvalidator"
  | _ => none

/-- Help and usage do not mention it. -/
def isHidden : Setting → Bool
  | .stdio => true
  | _ => false

end Setting

/-- A level of the command line. -/
inductive Level where
  | top
  | serve
  | lint
  | watch
  /-- The command that shows help on the others. -/
  | help
  deriving Repr, DecidableEq

/-- Files that a command takes. -/
structure Operand where
  name : String
  /-- There may be more than one. -/
  many : Bool
  /-- There has to be one. -/
  required : Bool
  about : String
  deriving Repr, DecidableEq

/-- How usage shows it. -/
def Operand.shown (o : Operand) : String :=
  (if o.required then "<" ++ o.name ++ ">" else "[" ++ o.name ++ "]") ++
    (if o.many then "..." else "")

namespace Level

/-- The commands, in the order in which they are declared. -/
def commands : List Level := [.serve, .lint, .watch, .help]

/-- The name of a command. -/
def name : Level → String
  | .top => programName
  | .serve => "serve"
  | .lint => "lint"
  | .watch => "watch"
  | .help => "help"

/-- The command of that name. -/
def command? (name : String) : Option Level := commands.find? fun level => level.name = name

/-- What has to be typed to get to the level. -/
def invocation : Level → String
  | .top => programName
  | level => programName ++ " " ++ level.name

/-- What the level is for. -/
def about : Level → String
  | .top => "Language server for Kickstart files, backed by ksvalidator"
  | .serve => "Run the language server on stdin/stdout"
  | .lint => "Validate Kickstart files and report problems"
  | .watch => "Watch a Kickstart file and validate it on every change"
  | .help => "Print this message or the help of the given subcommand(s)"

/-- The files it takes. -/
def operand? : Level → Option Operand
  | .lint => some ⟨"FILES", true, true, "Files to validate"⟩
  | .watch => some ⟨"FILE", false, true, "File to watch"⟩
  | .help => some ⟨"COMMAND", true, false, "Print help for the subcommand(s)"⟩
  | _ => none

/-- What can be set or asked for at the level. -/
def settings : Level → List Setting
  | .top => Setting.all
  | .help => []
  | _ => Setting.all.filter (· ≠ .version)

/-- The settings that are the level's own: the top's hold for all commands. -/
def ownSettings : Level → List Setting
  | .top => [.validator, .timeout, .logLevel, .stdio]
  | _ => []

/-- The setting of that name. -/
def setting? (level : Level) (name : String) : Option Setting :=
  level.settings.find? fun s => s.name = name

/-- The setting of that letter. -/
def letter? (level : Level) (letter : Char) : Option Setting :=
  level.settings.find? fun s => s.letter? = some letter

end Level

end Kickstart.CommandLine
