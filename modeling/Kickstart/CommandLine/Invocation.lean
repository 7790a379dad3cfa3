/-
# Kickstart.CommandLine.Invocation -- reading a command line

The words of a command line are read from left to right at one level, until the name
of a command opens the next.  A setting that takes a value waits for it (`Pending`);
what waits is settled when the next setting or operand comes, or at the end of the
level, and only then is its value looked at.  Complaints therefore come in this order:
about words, as they are read; about what a level holds, the command's before the
top's; about variables, after the level's words; about missing files, last.

A setting given to the command wins over the same one at the top, that over the
variable, and that over the default.
-/
import Kickstart.CommandLine.Complaint

namespace Kickstart.CommandLine

set_option autoImplicit false

/-- What the program is to do. -/
inductive Task where
  | serve
  | lint (files : List String)
  | watch (file : String)
  deriving Repr, DecidableEq

/-- A command line that was understood. -/
structure Invocation where
  task : Task
  validator : String
  /-- Seconds after which a validator run is cut off. -/
  timeout : Option Nat
  /-- What is to be logged. -/
  logFilter : Option String
  deriving Repr, DecidableEq

/-- Why a command line leads to no task. -/
inductive Refusal where
  /-- Help was asked for. -/
  | help (level : Level) (long : Bool)
  /-- The version was asked for. -/
  | version
  /-- Something is wrong. -/
  | complaint (c : Complaint)
  deriving Repr

/-! ## Values -/

/-- Goes on reading a number of 64 bits. -/
def readDigits (value : Nat) : List Char → Except NumberFault Nat
  | [] => .ok value
  | c :: rest =>
    if !c.isDigit then .error .badDigit
    else
      let next := value * 10 + (c.toNat - '0'.toNat)
      if 0x10000000000000000 ≤ next then .error .tooLarge else readDigits next rest

/-- A number of 64 bits, perhaps after a plus sign. -/
def readNumber (s : String) : Except NumberFault Nat :=
  match s.toList with
  | [] => .error .empty
  | ['+'] => .error .badDigit
  | '+' :: digits => readDigits 0 digits
  | digits => readDigits 0 digits

/-- What is wrong with a setting's value. -/
def Setting.fault? (s : Setting) (value : String) : Option Complaint :=
  match s with
  | .validator => if value = "" then some (.valueMissing s.shown) else none
  | .timeout =>
    match readNumber value with
    | .ok _ => none
    | .error fault => some (.badNumber value s fault)
  | _ => none

/-- What the variable of a setting holds. -/
def Setting.held? (env : Variables) (s : Setting) : Option String :=
  s.envName?.bind fun name => env.lookup name

/-! ## One level -/

/-- What waits to be settled. -/
inductive Pending where
  /-- A setting, with its value if that has come. -/
  | setting (s : Setting) (value : Option String)
  /-- Operands. -/
  | operands (values : List String)
  deriving Repr, DecidableEq

/-- What was read at a level. -/
structure Reader where
  level : Level
  /-- The settings that were given, with their values, in order. -/
  given : List (Setting × String)
  operands : List String
  pending : Option Pending
  /-- Two dashes have come: what follows are operands. -/
  afterDashes : Bool
  deriving Repr

namespace Reader

/-- The start of a level. -/
def start (level : Level) : Reader := ⟨level, [], [], none, false⟩

/-- The settings that usage shows as given. -/
def used (r : Reader) : List Setting :=
  (r.given.map (·.1)).filter fun s => !s.isHidden

/-- A setting is given. -/
def give (r : Reader) (s : Setting) (value : String) : Except Complaint Reader :=
  if r.given.any fun (t, _) => t = s then .error (.repeated r.level s)
  else
    match s.fault? value with
    | some complaint => .error complaint
    | none => .ok { r with given := r.given ++ [(s, value)] }

/-- Settles what waits. -/
def settle (r : Reader) : Except Complaint Reader :=
  match r.pending with
  | none => .ok r
  | some (.setting s none) => .error (.valueMissing s.shown)
  | some (.setting s (some value)) => { r with pending := none }.give s value
  | some (.operands values) =>
    match r.level.operand? with
    | some operand =>
      if values.contains "" then .error (.valueMissing operand.shown)
      else .ok { r with operands := r.operands ++ values, pending := none }
    | none => .ok { r with pending := none }

/-- The settings that were given or at least begun.  One that waits to be given a second
time counts for nothing. -/
def begun (r : Reader) : List Setting :=
  match r.pending with
  | some (.setting s (some _)) => if r.used.contains s then r.used.erase s else r.used ++ [s]
  | _ => r.used

/-- Files were given or at least begun. -/
def hasFiles (r : Reader) : Bool :=
  !r.operands.isEmpty || r.pending matches some (.operands _)

/-- What usage shows of a level where the name of a setting is unknown: all that was
begun, and the setting that was perhaps meant. -/
def usedBefore (r : Reader) (similar : Option Setting) : Used :=
  let meant := similar.toList.filter fun s => !s.isHidden && !r.begun.contains s
  ⟨r.begun ++ meant, r.hasFiles, false⟩

/-- What usage shows of a level where a setting has a needless value: that setting and
all that was given, what is the level's own together. -/
def usedWith (r : Reader) (s : Setting) : Used :=
  let own := r.given.any fun (t, _) => r.level.ownSettings.contains t
  ⟨r.used ++ [s], false, own || !r.operands.isEmpty⟩

/-- A setting that takes no value. -/
def flag (r : Reader) (s : Setting) (long : Bool) : Except Refusal Reader :=
  match r.settle with
  | .error complaint => .error (.complaint complaint)
  | .ok r =>
    match s with
    | .help => .error (.help r.level long)
    | .version => .error .version
    | s => (r.give s "").mapError .complaint

/-- A word after two dashes, with what followed its equals sign. -/
def long (r : Reader) (name : String) (value : Option String) : Except Refusal Reader :=
  match r.level.setting? name with
  | none =>
    let similar := (Text.alikeTo name (r.level.settings.map Setting.name)).getLast?.bind
      r.level.setting?
    .error (.complaint (.unexpected r.level (r.usedBefore similar) ("--" ++ name) similar
      (similar.isNone && r.level.operand?.isSome)))
  | some s =>
    match s.value?, value with
    | some _, some value =>
      match r.settle with
      | .error complaint => .error (.complaint complaint)
      | .ok r => (r.give s value).mapError .complaint
    | some _, none =>
      match r.settle with
      | .error complaint => .error (.complaint complaint)
      | .ok r => .ok { r with pending := some (.setting s none) }
    | none, some value => .error (.complaint (.needlessValue r.level (r.usedWith s) value s))
    | none, none => r.flag s true

/-- Letters after a single dash. -/
def letters (r : Reader) : List Char → Except Refusal Reader
  | [] => .ok r
  | c :: rest =>
    match r.level.letter? c with
    | none =>
      .error (.complaint (.unexpected r.level .nothing (String.ofList ['-', c]) none
        r.level.operand?.isSome))
    | some s =>
      match r.flag s false with
      | .error refusal => .error refusal
      | .ok r => letters r rest

/-- A word that is no setting and no command. -/
def misplaced (r : Reader) (word : String) : Complaint :=
  if r.level = .top then
    if r.afterDashes && (Level.command? word).isSome then .commandAfterDashes word
    else .unknownCommand .top word (Text.alikeTo word (Level.commands.map Level.name))
  else .unexpected r.level .nothing word none false

/-- A word that is an operand, if the level takes one more. -/
def operand (r : Reader) (word : String) : Except Refusal Reader :=
  match r.level.operand?, r.pending with
  | none, _ => .error (.complaint (r.misplaced word))
  | some o, some (.operands values) =>
    if o.many then .ok { r with pending := some (.operands (values ++ [word])) }
    else .error (.complaint (r.misplaced word))
  | some o, _ =>
    if !o.many && r.operands ≠ [] then .error (.complaint (r.misplaced word))
    else
      match r.settle with
      | .error complaint => .error (.complaint complaint)
      | .ok r => .ok { r with pending := some (.operands [word]) }

/-- The setting that waits for its value. -/
def waiting? (r : Reader) : Option Setting :=
  match r.pending with
  | some (.setting s none) => some s
  | _ => none

/-- Name and value of a word after two dashes. -/
def splitEquals (t : List Char) : String × Option String :=
  let name := String.ofList (t.takeWhile (· ≠ '='))
  match t.dropWhile (· ≠ '=') with
  | [] => (name, none)
  | _ :: value => (name, some (String.ofList value))

/-- One word at a level where it opens no command. -/
def word (r : Reader) (given : String) : Except Refusal Reader :=
  if r.afterDashes then r.operand given
  else
    match given.toList with
    | ['-', '-'] => .ok { r with afterDashes := true }
    | '-' :: '-' :: rest =>
      let (name, value) := splitEquals rest
      r.long name value
    | '-' :: c :: rest => r.letters (c :: rest)
    | _ =>
      match r.waiting? with
      | some s => .ok { r with pending := some (.setting s (some given)) }
      | none => r.operand given

/-- The command that a word opens. -/
def opens? (r : Reader) (given : String) : Option Level :=
  if r.level = .top && !r.afterDashes && r.waiting?.isNone then Level.command? given else none

/-- The words of a level; gives the command they end with and the words that follow. -/
def words (r : Reader) : List String → Except Refusal (Reader × Option (Level × List String))
  | [] => .ok (r, none)
  | given :: rest =>
    match r.opens? given with
    | some command => .ok (r, some (command, rest))
    | none =>
      match r.word given with
      | .error refusal => .error refusal
      | .ok r => words r rest

/-- What a variable holds for a setting that is not given. -/
def fromVariables? (env : Variables) (r : Reader) (s : Setting) : Option String :=
  if r.given.any fun (t, _) => t = s then none else s.held? env

/-- The end of a level: what waits is settled, variables are looked at, and files have
to be there. -/
def finish (env : Variables) (r : Reader) : Except Complaint Reader := do
  let r ← r.settle
  let held := r.level.settings.filterMap fun s =>
    (r.fromVariables? env s).map fun value => (s, value)
  match held.findSome? fun (s, value) => s.fault? value with
  | some complaint => throw complaint
  | none =>
    match r.level.operand? with
    | some o =>
      if o.required && r.operands = [] then
        throw (.operandMissing r.level (r.used ++ held.map (·.1)) o)
      else return r
    | none => return r

end Reader

/-! ## The whole command line -/

/-- The level whose help the words after `help` ask for. -/
def helpTopic (level : Level) : List String → Except Refusal Level
  | [] => .ok level
  | name :: rest =>
    match (if level = .top then Level.command? name else none) with
    | some command => helpTopic command rest
    | none => .error (.complaint (.unknownCommand level name []))

/-- The value of a setting, the first reader winning. -/
def valueOf? (env : Variables) (readers : List Reader) (s : Setting) : Option String :=
  (readers.findSome? fun r => r.given.lookup s).or
    ((s.held? env).or s.default?)

/-- The task of a command with its operands. -/
def taskOf (level : Level) (operands : List String) : Task :=
  match level, operands with
  | .lint, files => .lint files
  | .watch, file :: _ => .watch file
  | _, _ => .serve

/-- The invocation that readers, the innermost first, add up to. -/
def assemble (env : Variables) (task : Task) (readers : List Reader) : Invocation where
  task := task
  validator := (valueOf? env readers .validator).getD ""
  timeout := (valueOf? env readers .timeout).bind fun s => (readNumber s).toOption
  logFilter := valueOf? env readers .logLevel

/-- Reads a command line. -/
def read (env : Variables) (given : List String) : Except Refusal Invocation := do
  match ← (Reader.start .top).words given with
  | (top, none) =>
    let top ← (top.finish env).mapError .complaint
    return assemble env .serve [top]
  | (_, some (.help, rest)) => throw (.help (← helpTopic .top rest) true)
  | (top, some (command, rest)) =>
    let (inner, _) ← (Reader.start command).words rest
    let inner ← (inner.finish env).mapError .complaint
    let top ← (top.finish env).mapError .complaint
    return assemble env (taskOf command inner.operands) [inner, top]

end Kickstart.CommandLine
