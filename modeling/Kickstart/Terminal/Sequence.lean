/-
# Kickstart.Terminal.Sequence -- escape sequences

Text for a terminal holds sequences that paint it or move the cursor: an escape
character and what belongs to it.  There are short ones, control sequences (after `[`)
that end with a letter or sign, device strings (after `P`), operating system commands
(after `]`) that end with a bell, and other strings.  `Stage` says how far a sequence has
come, and `visible` leaves of a text what a reader is meant to see: characters outside
sequences, without control characters other than blanks.

A blank inside a short or control sequence is shown at once, and so is the text that
follows it; the sequence goes on at the next control character.
-/
import Kickstart.Text.Utf8

namespace Kickstart.Terminal

set_option autoImplicit false

/-- How far a sequence has come. -/
inductive Stage where
  /-- There is none. -/
  | outside
  | escape
  | escapeIntermediate
  | control
  | controlParameter
  | controlIntermediate
  | controlIgnored
  | device
  | deviceParameter
  | deviceIntermediate
  /-- A string that a byte `9C` ends. -/
  | string
  /-- A string that a bell ends. -/
  | command
  deriving Repr, DecidableEq

namespace Stage

/-- Blanks take effect in the middle of the sequence. -/
def allowsBlanks : Stage → Bool
  | .device | .deviceParameter | .deviceIntermediate | .string | .command => false
  | _ => true

/-- The stage after an ASCII character. -/
def next (stage : Stage) (n : Nat) : Stage :=
  if n = 0x1B then .escape
  else if n = 0x18 ∨ n = 0x1A then .outside
  else if n = 0x7F then stage
  else match stage with
    | .outside => .outside
    | .escape =>
      if n < 0x20 then .escape
      else if n < 0x30 then .escapeIntermediate
      else if n = '['.toNat then .control
      else if n = ']'.toNat then .command
      else if n = 'P'.toNat then .device
      else if n = 'X'.toNat ∨ n = '^'.toNat ∨ n = '_'.toNat then .string
      else .outside
    | .escapeIntermediate => if n < 0x30 then .escapeIntermediate else .outside
    | .control =>
      if n < 0x20 then .control
      else if n < 0x30 then .controlIntermediate
      else if n < 0x40 then .controlParameter
      else .outside
    | .controlParameter =>
      if n < 0x20 then .controlParameter
      else if n < 0x30 then .controlIntermediate
      else if n < 0x3C then .controlParameter
      else if n < 0x40 then .controlIgnored
      else .outside
    | .controlIntermediate =>
      if n < 0x30 then .controlIntermediate
      else if n < 0x40 then .controlIgnored
      else .outside
    | .controlIgnored => if n < 0x40 then .controlIgnored else .outside
    | .device =>
      if n < 0x20 then .device
      else if n < 0x30 then .deviceIntermediate
      else if n < 0x40 then .deviceParameter
      else .string
    | .deviceParameter =>
      if n < 0x20 then .deviceParameter
      else if n < 0x30 then .deviceIntermediate
      else if n < 0x3C then .deviceParameter
      else .string
    | .deviceIntermediate => if n < 0x30 then .deviceIntermediate else .string
    | .string => .string
    | .command => if n = 7 then .outside else .command

/-- The stage after a character outside ASCII.  One of its bytes may end a string. -/
def nextWide (stage : Stage) (c : Char) : Stage :=
  match stage with
  | .string => if (Text.encode [c]).contains 0x9C then .outside else .string
  | stage => stage

end Stage

/-- A tab, a line break, a form feed or a carriage return. -/
def isBlankControl (n : Nat) : Bool := n = 9 || n = 10 || n = 12 || n = 13

/-- An ASCII character that shows, or a blank. -/
def isShown (n : Nat) : Bool := (0x20 ≤ n && n < 0x7F) || isBlankControl n

/-- The reader of terminal text. -/
structure Reader where
  stage : Stage
  /-- Text is shown, also if a sequence has not come to its end. -/
  showing : Bool
  deriving Repr, DecidableEq

namespace Reader

/-- The start of a text. -/
def start : Reader := ⟨.outside, true⟩

/-- Takes a character; says whether it is visible. -/
def feed (r : Reader) (c : Char) : Bool × Reader :=
  let n := c.toNat
  if 0x80 ≤ n then
    if r.showing || r.stage = .outside then (true, start)
    else (false, ⟨r.stage.nextWide c, false⟩)
  else if isShown n && (r.showing || r.stage = .outside) then (true, ⟨r.stage, true⟩)
  else if isBlankControl n && r.stage.allowsBlanks then (true, ⟨r.stage, true⟩)
  else (false, ⟨r.stage.next n, false⟩)

/-- What is visible of the rest of a text. -/
def visible (r : Reader) : Text → Text
  | [] => []
  | c :: rest =>
    let (shown, r) := r.feed c
    if shown then c :: r.visible rest else r.visible rest

end Reader

/-- The visible part of a text. -/
def visible (t : Text) : Text := Reader.start.visible t

end Kickstart.Terminal
