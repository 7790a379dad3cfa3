/-
# Kickstart.LogFilter -- what is to be logged

A log filter is a list of directives with commas between them.  A directive is a level,
or the target that messages come from, a span between brackets, or both, with perhaps a
level after an equals sign; a span may hold a field between braces, with perhaps a
pattern for its value.  A directive that cannot be read is passed over, with a notice.

Blanks around a directive do not count, but they stay in the text that its parts are
taken from, at places counted without them.  So they do no harm unless the directive
gives a level after an equals sign, which they make unreadable, or a field, which is
taken from further left.
-/
import Kickstart.LogFilter.Pattern

namespace Kickstart.LogFilter

set_option autoImplicit false

/-- Why a directive cannot be read. -/
inductive Fault where
  | malformed
  | badLevel
  | badField (fault : Pattern.Fault)
  deriving Repr, DecidableEq

/-- The wording of a fault. -/
def Fault.message : Fault → String
  | .malformed => "invalid filter directive"
  | .badLevel =>
    "error parsing level filter: expected one of \"off\", \"error\", \"warn\", \"info\", " ++
      "\"debug\", \"trace\", or a number 0-5"
  | .badField fault => "invalid field filter: " ++ fault.message

/-- A directive as it was given, and without the blanks around it. -/
structure Directive where
  given : Text
  body : Text

namespace Directive

/-- The directive that a text is. -/
def of (t : Text) : Directive := ⟨t, Text.trim t⟩

/-- There are blanks around it. -/
def isPadded (d : Directive) : Bool := d.given ≠ d.body

/-- That many characters of the directive, from where so much of its body is left. -/
def part (d : Directive) (left : Text) (n : Nat) : Text :=
  (d.given.drop (d.body.length - left.length)).take n

end Directive

/-! ## Levels -/

/-- The levels by name. -/
def levelNames : List String := ["off", "error", "warn", "info", "debug", "trace"]

/-- A number from 0 to 5, perhaps after a plus sign. -/
def isLevelNumber (t : Text) : Bool :=
  let digits := match t with
    | '+' :: rest => rest
    | t => t
  !digits.isEmpty && digits.all Text.isAsciiDigit && Text.decimalValue digits ≤ 5

/-- The name of a level in upper or lower case, or its number. -/
def isLevel (t : Text) : Bool :=
  isLevelNumber t || levelNames.contains (String.ofList (t.map Char.toLower))

/-- What follows the equals sign of a directive; nothing stands for all levels. -/
def readLevel (d : Directive) (t : Text) : Except Fault Unit :=
  if !d.isPadded && (t.isEmpty || isLevel t) then .ok () else .error .badLevel

/-! ## Directives -/

/-- What follows the bracket that closes a span. -/
def readEnd (d : Directive) : Text → Except Fault Unit
  | [] => .ok ()
  | '=' :: rest => readLevel d rest
  | _ => .error .malformed

/-- A field: a name, and perhaps a pattern between the first equals sign and the next. -/
def readField (t : Text) : Except Fault Unit :=
  match Text.splitAt '=' t with
  | _ :: value :: _ =>
    match Pattern.fault? value with
    | none => .ok ()
    | some fault => .error (.badField fault)
  | _ => .ok ()

/-- What follows the brace that opens the field of a span. -/
def readFields (d : Directive) (t : Text) : Except Fault Unit :=
  match (t.takeWhile (· ≠ '\x7d')).length, t.dropWhile (· ≠ '\x7d') with
  | n + 1, _ :: rest => do
    readField (d.part t (n + 1))
    match rest with
    | ']' :: rest => readEnd d rest
    | _ => .error .malformed
  | _, _ => .error .malformed

/-- What follows the bracket that opens a span. -/
def readSpan (d : Directive) : Text → Except Fault Unit
  | [] => .error .malformed
  | ']' :: rest => readEnd d rest
  | '\x7b' :: rest => readFields d rest
  | _ :: rest => readSpan d rest

/-- What follows the first character of a level or target. -/
def readTarget (d : Directive) : Text → Except Fault Unit
  | [] => .ok ()
  | '=' :: rest => readLevel d rest
  | '[' :: rest => readSpan d rest
  | _ :: rest => readTarget d rest

/-- A target starts with a letter, a number or one of a few signs. -/
def startsTarget (c : Char) : Bool := ['-', ':', '_'].contains c || Text.isAlphanumeric c

/-- Reads a directive. -/
def read (d : Directive) : Except Fault Unit :=
  match d.body with
  | [] => .error .malformed
  | '[' :: rest => readSpan d rest
  | c :: rest => if startsTarget c then readTarget d rest else .error .malformed

/-! ## Notices -/

/-- The directives of a filter; empty ones do not count. -/
def directives (filter : String) : List String :=
  (filter.splitOn ",").filter fun d => d ≠ ""

/-- What is said about a directive that cannot be read. -/
def notice? (directive : String) : Option String :=
  match read (.of directive.toList) with
  | .ok () => none
  | .error fault => some ("ignoring `" ++ directive ++ "`: " ++ fault.message)

/-- A line for each directive that cannot be read. -/
def notices (filter : String) : List String := (directives filter).filterMap notice?

end Kickstart.LogFilter
