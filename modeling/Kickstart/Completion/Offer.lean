/-
# Kickstart.Completion.Offer -- what completion offers on a line

A line starts with a command and goes on with its options.  While the first word is
still being typed every command is offered; once white space follows it, the
snippets of that command are, or nothing when there is no such command.  Only the
part of the line before the cursor counts.
-/
import Kickstart.Completion.Command
import Kickstart.Text.Blank

namespace Kickstart

set_option autoImplicit false

/-- Something offered at the cursor. -/
inductive Offer where
  /-- A command, with its description. -/
  | command (name detail : String)
  /-- A snippet, shown under a label. -/
  | snippet (label insertion : String)
  deriving Repr, DecidableEq

namespace Offer

/-- A snippet's label: its first word, or all of it when it has none. -/
def label (snippet : Text) : Text := (Text.firstWord? snippet).getD snippet

/-- The offer of a command. -/
def ofCommand (c : Command) : Offer := .command c.name c.detail

/-- The offer of a snippet. -/
def ofSnippet (s : Snippet) : Offer :=
  .snippet (String.ofList (label s.render.toList)) s.render

/-- White space follows the first word. -/
def firstWordDone (before : Text) : Bool := (Text.trimStart before).any Text.isBlank

/-- The offers for the part of a line before the cursor. -/
def complete (before : Text) : List Offer :=
  if firstWordDone before then
    match (Text.firstWord? before).bind fun word => Command.find? (String.ofList word) with
    | some found => found.arguments.map ofSnippet
    | none => []
  else Command.table.map ofCommand

end Offer

end Kickstart
