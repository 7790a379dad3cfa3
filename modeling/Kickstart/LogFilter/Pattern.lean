/-
# Kickstart.LogFilter.Pattern -- patterns for the values of fields

A log filter may ask for spans whose field has a certain value.  The value is a number
or a regular expression, and this module says which texts are regular expressions.
Nothing is ever matched: only what is wrong with a text (`Pattern.fault?`) can be seen.

The text is read once from the left (`scan`), with a stack of the open groups.  A group
keeps the mode that holds again when it is closed.  A closing brace never occurs in a
value, so what needs one, such as a count of repetitions, is never complete.
-/
import Kickstart.Text.Alphanumeric
import Kickstart.Text.Digit

namespace Kickstart.LogFilter.Pattern

set_option autoImplicit false

/-- What is wrong with a pattern. -/
inductive Fault where
  /-- It is no regular expression. -/
  | malformed
  /-- It looks for the ends of words of all scripts, which cannot be done in one pass. -/
  | wordBoundary
  deriving Repr, DecidableEq

/-- The wording of a fault. -/
def Fault.message : Fault → String
  | .malformed => "error building NFA"
  | .wordBoundary =>
    "unsupported regex feature for DFAs: cannot build DFAs for regexes with Unicode word " ++
      "boundaries; switch to ASCII word boundaries, or heuristically enable Unicode word " ++
      "boundaries or use a different regex engine"

/-- The switches that change how a pattern is read. -/
structure Mode where
  /-- Blanks and comments do not count. -/
  spaced : Bool
  /-- Characters of all scripts are meant, not only those of ASCII. -/
  wide : Bool

/-- The mode a pattern starts in. -/
def Mode.initial : Mode := ⟨false, true⟩

/-- Without the blanks and comments in front; a comment goes to the end of its line. -/
def skipFiller (inComment : Bool) : Text → Text
  | [] => []
  | c :: rest =>
    if inComment then skipFiller (c ≠ '\n') rest
    else if Text.isBlank c then skipFiller false rest
    else if c = '#' then skipFiller true rest
    else c :: rest

theorem length_skipFiller_le (inComment : Bool) (t : Text) :
    (skipFiller inComment t).length ≤ t.length := by
  induction t generalizing inComment with
  | nil => exact Nat.le_refl _
  | cons c rest ih =>
    have shorter (b : Bool) : (skipFiller b rest).length ≤ (c :: rest).length :=
      Nat.le_trans (ih b) (Nat.le_succ _)
    unfold skipFiller
    split
    · exact shorter _
    · split
      · exact shorter _
      · split
        · exact shorter _
        · exact Nat.le_refl _

/-- Without what does not count in the mode. -/
def Mode.skip (m : Mode) (t : Text) : Text := if m.spaced then skipFiller false t else t

theorem Mode.length_skip_le (m : Mode) (t : Text) : (m.skip t).length ≤ t.length := by
  unfold Mode.skip
  split
  · exact length_skipFiller_le false t
  · exact Nat.le_refl _

/-! ## Single characters -/

/-- What stands for itself, for a set of characters or for a place. -/
inductive Atom where
  | literal (code : Nat)
  | set
  | place
  | wordBoundary

/-- The value of a hexadecimal digit. -/
def hexValue? (c : Char) : Option Nat :=
  if c.isDigit then some (c.toNat - '0'.toNat)
  else if 'a' ≤ c.toLower ∧ c.toLower ≤ 'f' then some (c.toLower.toNat - 'a'.toNat + 10)
  else none

/-- A code of that many hexadecimal digits, after the part that was read. -/
def readCode (m : Mode) : Nat → Nat → Text → Option (Nat × Text)
  | 0, code, t => if code.isValidChar then some (code, m.skip t) else none
  | n + 1, code, t =>
    match m.skip t with
    | [] => none
    | c :: rest => (hexValue? c).bind fun digit => readCode m n (16 * code + digit) rest

/-- The letters that name the groups of Unicode's categories. -/
def categoryLetters : Text := "clmnpsz".toList

/-- The letters that stand for control characters, with their codes. -/
def controlLetters : List (Char × Nat) :=
  [('a', 0x07), ('f', 0x0C), ('t', 0x09), ('n', 0x0A), ('r', 0x0D), ('v', 0x0B)]

/-- How many hexadecimal digits follow a letter. -/
def codeLengths : List (Char × Nat) := [('x', 2), ('u', 4), ('U', 8)]

/-- A sign that a backslash makes stand for itself. -/
def isSign (c : Char) : Bool := c.toNat < 0x80 && !c.isAlphanum && c ≠ '<' && c ≠ '>'

/-- The name of a category, a single letter. -/
def readCategory (m : Mode) (t : Text) : Option (Atom × Text) :=
  match m.skip t with
  | c :: rest =>
    if m.wide && categoryLetters.contains c.toLower then some (.set, m.skip rest) else none
  | [] => none

/-- What follows a backslash. -/
def readEscape (m : Mode) : Text → Option (Atom × Text)
  | [] => none
  | c :: rest =>
    match codeLengths.lookup c, controlLetters.lookup c with
    | some n, _ => do
      let (code, rest) ← readCode m n 0 rest
      if !m.wide && c = 'x' && 0x80 ≤ code then none else some (.literal code, rest)
    | none, some code => some (.literal code, rest)
    | none, none =>
      if isSign c then some (.literal c.toNat, rest)
      else if c = 'p' ∨ c = 'P' then readCategory m rest
      else if ['d', 's', 'w'].contains c then some (.set, rest)
      else if ['D', 'S', 'W'].contains c then if m.wide then some (.set, rest) else none
      else if c = 'A' ∨ c = 'z' then some (.place, rest)
      else if ['b', 'B', '<', '>'].contains c then
        some (if m.wide then .wordBoundary else .place, rest)
      else none

/-! ## Sets between brackets -/

/-- The names of sets that may stand between colons. -/
def setNames : List String :=
  ["alnum", "alpha", "ascii", "blank", "cntrl", "digit", "graph", "lower", "print", "punct",
   "space", "upper", "word", "xdigit"]

/-- What follows the bracket of a set that is given by name. -/
def readNamedSet? : Text → Option Text
  | ':' :: rest =>
    let named := if rest.head? = some '^' then rest.tail else rest
    match named.dropWhile (· ≠ ':') with
    | ':' :: ']' :: after =>
      if setNames.contains (String.ofList (named.takeWhile (· ≠ ':'))) then some after else none
    | _ => none
  | _ => none

/-- Without the hyphens in front. -/
def skipHyphens (m : Mode) (t : Text) : Text :=
  match t with
  | '-' :: rest => skipHyphens m (m.skip rest)
  | t => t
termination_by t.length
decreasing_by exact Nat.lt_succ_of_le (m.length_skip_le rest)

/-- What follows the bracket that opens a set: perhaps a mark that turns it around, and
hyphens or a closing bracket that stand for themselves. -/
def openSet (m : Mode) (t : Text) : Option Text :=
  let t := m.skip t
  let turned := t.head? = some '^'
  let body := if turned then m.skip t.tail else t
  if turned && !m.wide then none
  else
    match body with
    | '-' :: _ => some (skipHyphens m body)
    | ']' :: rest => some (m.skip rest)
    | _ => some body

/-- A member of a set. -/
def readMember (m : Mode) (t : Text) : Option (Atom × Text) := do
  let (atom, rest) ← match t with
    | [] => none
    | '\\' :: rest => readEscape m rest
    | c :: rest => some (.literal c.toNat, rest)
  match atom with
  | .literal code => if !m.wide && 0x80 ≤ code then none else some (atom, m.skip rest)
  | .set => some (atom, m.skip rest)
  | _ => none

/-- A member of a set, or two with a hyphen between them that are in order. -/
def readMembers (m : Mode) (t : Text) : Option Text := do
  let (first, rest) ← readMember m t
  match rest with
  | '-' :: after =>
    let after := m.skip after
    if after.head? = some ']' ∨ after.head? = some '-' then some rest
    else
      match first, ← readMember m after with
      | .literal low, (.literal high, rest) => if low ≤ high then some rest else none
      | _, _ => none
  | rest => some rest

/-- What follows the set, when that many sets are open. -/
def readSet (m : Mode) (depth : Nat) (t : Text) : Option Text :=
  let goOn (depth : Nat) (rest : Text) : Option Text :=
    if rest.length < t.length then readSet m depth rest else none
  match m.skip t with
  | [] => none
  | '[' :: rest =>
    match readNamedSet? rest with
    | some after => goOn depth after
    | none => (openSet m rest).bind (goOn (depth + 1))
  | ']' :: rest => if depth ≤ 1 then some rest else goOn (depth - 1) rest
  | '&' :: '&' :: rest => goOn depth rest
  | '-' :: '-' :: rest => goOn depth rest
  | '~' :: '~' :: rest => goOn depth rest
  | body => (readMembers m body).bind (goOn depth)
termination_by t.length

/-! ## Groups -/

/-- The letters of the switches. -/
def switchLetters : Text := "imsUuRx".toList

/-- The mode after a switch. -/
def Mode.switch (m : Mode) (letter : Char) (on : Bool) : Mode :=
  if letter = 'x' then { m with spaced := on }
  else if letter = 'u' then { m with wide := on }
  else m

/-- Switches, up to the sign after them: those behind a hyphen are turned off.  None may
come twice. -/
def readSwitches (m : Mode) (seen : Text) : Text → Option (Mode × Text × Text)
  | [] => none
  | c :: rest =>
    if c = ':' ∨ c = ')' then
      if seen.head? = some '-' then none else some (m, seen, c :: rest)
    else if seen.contains c then none
    else if c = '-' then readSwitches m (c :: seen) rest
    else if switchLetters.contains c then
      readSwitches (m.switch c (!seen.contains '-')) (c :: seen) rest
    else none

/-- The name of a group and what follows it. -/
def readName (t : Text) : Option (Text × Text) :=
  let name := t.takeWhile (· ≠ '>')
  let inName (c : Char) : Bool := c = '_' || Text.isAlphanumeric c
  match name, t.dropWhile (· ≠ '>') with
  | first :: others, _ :: rest =>
    if inName first && !Text.isDigit first &&
        others.all (fun c => inName c || ['.', '[', ']'].contains c) then some (name, rest)
    else none
  | _, _ => none

/-- How far a pattern was read. -/
structure State where
  mode : Mode
  /-- The modes that hold again after the open groups, the innermost first. -/
  groups : List Mode
  /-- The names of groups. -/
  names : List Text
  /-- Something stands before that can be repeated. -/
  operand : Bool
  /-- The ends of words of all scripts are looked for. -/
  boundary : Bool

/-- Nothing was read yet. -/
def State.initial : State := ⟨.initial, [], [], false, false⟩

/-- Inside a new group, in that mode. -/
def State.enter (s : State) (m : Mode) : State :=
  { s with mode := m, groups := s.mode :: s.groups, operand := false }

/-- After something that can be repeated. -/
def State.pass (s : State) : State := { s with operand := true }

/-- Inside a new group with a name, which may be given once. -/
def enterNamed (s : State) (t : Text) : Option (State × Text) := do
  let (name, rest) ← readName t
  if s.names.contains name then none
  else some ({ s with names := name :: s.names }.enter s.mode, rest)

/-- What follows the question mark of a group: switches, for the group or from here on. -/
def enterSwitched (s : State) (t : Text) : Option (State × Text) := do
  match ← readSwitches s.mode [] t with
  | (m, _, ':' :: rest) => some (s.enter m, rest)
  | (m, _ :: _, _ :: rest) => some ({ s with mode := m, operand := false }, rest)
  | _ => none

/-- What follows the parenthesis that opens a group. -/
def enterGroup (s : State) (t : Text) : Option (State × Text) :=
  match s.mode.skip t with
  | '?' :: '<' :: '=' :: _ => none
  | '?' :: '<' :: '!' :: _ => none
  | '?' :: 'P' :: '<' :: rest => enterNamed s rest
  | '?' :: '<' :: rest => enterNamed s rest
  | '?' :: rest => enterSwitched s rest
  | t => some (s.enter s.mode, t)

/-! ## Whole patterns -/

/-- After an operator that repeats what stands before it; a question mark behind it says
that few repetitions are better than many. -/
def repeatOperand (s : State) (t : Text) : Option (State × Text) :=
  if s.operand then some (s, if t.head? = some '?' then t.tail else t) else none

/-- After one piece of a pattern. -/
def step (s : State) : Text → Option (State × Text)
  | [] => none
  | c :: rest =>
    match c with
    | '(' => enterGroup s rest
    | ')' => s.groups.head?.map fun m =>
        ({ s with mode := m, groups := s.groups.tail }.pass, rest)
    | '|' => some ({ s with operand := false }, rest)
    | '[' => ((openSet s.mode rest).bind (readSet s.mode 1)).map (s.pass, ·)
    | '*' => repeatOperand s rest
    | '+' => repeatOperand s rest
    | '?' => repeatOperand s rest
    | '\x7b' => none
    | '.' => if s.mode.wide then some (s.pass, rest) else none
    | '\\' => do
      match ← readEscape s.mode rest with
      | (.wordBoundary, rest) => some ({ s.pass with boundary := true }, rest)
      | (_, rest) => some (s.pass, rest)
    | _ => some (s.pass, rest)

/-- After the whole of a pattern; every group has to be closed. -/
def scan (s : State) (t : Text) : Option State :=
  match s.mode.skip t with
  | [] => if s.groups.isEmpty then some s else none
  | body => do
    let (s, rest) ← step s body
    if rest.length < t.length then scan s rest else none
termination_by t.length

/-- A number: digits, perhaps with a point and an exponent, or the name of a special one. -/
def isNumber (t : Text) : Bool :=
  let (whole, rest) := t.span Text.isAsciiDigit
  let (fraction, rest) := match rest with
    | '.' :: rest => rest.span Text.isAsciiDigit
    | rest => ([], rest)
  let exponent := match rest with
    | e :: '+' :: digits => e.toLower = 'e' && !digits.isEmpty && digits.all Text.isAsciiDigit
    | e :: '-' :: digits => e.toLower = 'e' && !digits.isEmpty && digits.all Text.isAsciiDigit
    | e :: digits => e.toLower = 'e' && !digits.isEmpty && digits.all Text.isAsciiDigit
    | [] => true
  ["inf", "infinity", "nan"].contains (String.ofList (t.map Char.toLower)) ||
    (!(whole ++ fraction).isEmpty && exponent)

/-- What is wrong with the value of a field.  A number is not taken for a pattern, which
matters only when it has a plus sign: any other is a pattern too. -/
def fault? (t : Text) : Option Fault :=
  if t.head? = some '+' && isNumber t.tail then none
  else
    match scan .initial t with
    | none => some .malformed
    | some s => if s.boundary then some .wordBoundary else none

end Kickstart.LogFilter.Pattern
