/-
# Kickstart.CommandLine.Complaint -- what is wrong with a command line

Each complaint is a cause with what is needed to tell it.  Its wording has up to four
parts: what is wrong, tips, the usage line and where to learn more.
-/
import Kickstart.CommandLine.Help

namespace Kickstart.CommandLine

set_option autoImplicit false

/-- How a text fails to be a number of 64 bits. -/
inductive NumberFault where
  | empty
  | badDigit
  | tooLarge
  deriving Repr, DecidableEq

/-- The wording of a fault. -/
def NumberFault.message : NumberFault → String
  | .empty => "cannot parse integer from empty string"
  | .badDigit => "invalid digit found in string"
  | .tooLarge => "number too large to fit in target type"

/-- What is wrong. -/
inductive Complaint where
  /-- A setting or operand has no value, or an empty one that may not be. -/
  | valueMissing (shown : String)
  /-- A value is no number. -/
  | badNumber (given : String) (setting : Setting) (fault : NumberFault)
  /-- Something that means nothing at this level; with the setting it was perhaps meant
  for, and whether it could be meant as an operand. -/
  | unexpected (level : Level) (used : Used) (given : String)
      (similar : Option Setting) (asOperand : Bool)
  /-- A value for a setting that takes none. -/
  | needlessValue (level : Level) (used : Used) (given : String) (setting : Setting)
  /-- A setting given twice. -/
  | repeated (level : Level) (setting : Setting)
  /-- No command of that name at the level; with the names it was perhaps meant for. -/
  | unknownCommand (level : Level) (given : String) (similar : List String)
  /-- A command that two dashes stand before. -/
  | commandAfterDashes (given : String)
  /-- Files are missing. -/
  | operandMissing (level : Level) (used : List Setting) (operand : Operand)
  deriving Repr

namespace Complaint

/-- Text around a marked part, between quotes. -/
def around (before : String) (part : Marked) (after : String) : Marked :=
  .plain (before ++ "'") ++ part ++ .plain ("'" ++ after)

/-- What is wrong, in words. -/
def headline : Complaint → Marked
  | .valueMissing shown =>
    around "a value is required for " (.as .invalid shown) " but none was supplied"
  | .badNumber given setting fault =>
    around "invalid value " (.as .invalid given) "" ++
      around " for " (.as .literal setting.shown) (": " ++ fault.message)
  | .unexpected _ _ given _ _ => around "unexpected argument " (.as .invalid given) " found"
  | .needlessValue _ _ given setting =>
    around "unexpected value " (.as .invalid given) "" ++
      around " for " (.as .literal setting.shown) " found; no more were expected"
  | .repeated _ setting =>
    around "the argument " (.as .invalid setting.shown) " cannot be used multiple times"
  | .unknownCommand _ given _ => around "unrecognized subcommand " (.as .invalid given) ""
  | .commandAfterDashes given => around "unexpected argument " (.as .invalid given) " found"
  | .operandMissing _ _ operand =>
    .plain "the following required arguments were not provided:\n  " ++
      .as .valid operand.shown

/-- What the user may have meant. -/
def tips : Complaint → List Marked
  | .unexpected _ _ given similar asOperand =>
    (similar.map fun s =>
      around "a similar argument exists: " (.as .valid ("--" ++ s.name)) "").toList ++
      (if asOperand then
        [around "to pass " (.as .invalid given) "" ++
          around " as a value, use " (.as .valid ("-- " ++ given)) ""]
      else [])
  | .unknownCommand _ _ [name] => [around "a similar subcommand exists: " (.as .valid name) ""]
  | .unknownCommand _ _ (name :: names) =>
    [.plain "some similar subcommands exist: " ++
      .joined ", " ((name :: names).map fun n => around "" (.as .valid n) "")]
  | .commandAfterDashes given =>
    [around "subcommand " (.as .valid given) "" ++
      around " exists; to use it, remove the " (.as .invalid "--") " before it"]
  | _ => []

/-- The usage line that is shown. -/
def usage? : Complaint → Option Marked
  | .valueMissing _ => none
  | .badNumber .. => none
  | .unexpected level used _ _ _ => some (usage level used)
  | .needlessValue level used _ _ => some (usage level used)
  | .repeated level _ => some (usage level .nothing)
  | .unknownCommand level _ _ => some (usage level .nothing)
  | .commandAfterDashes _ => some (usage .top .nothing)
  | .operandMissing level used _ => some (usage level ⟨used, true, false⟩)

/-- Where to learn more: nowhere at the command that shows help. -/
def learnMore : Complaint → Marked
  | .unknownCommand .help _ _ => []
  | _ => around "\n\nFor more information, try " (.as .literal "--help") "."

/-- A tip on a line of its own. -/
def labelled (tip : Marked) : Marked :=
  .plain "\n  " ++ .as .valid "tip:" ++ .plain " " ++ tip

/-- The whole wording. -/
def message (c : Complaint) : Marked :=
  let usage := (c.usage?.map fun line => Marked.plain "\n\n" ++ line).getD []
  let tips := if c.tips = [] then [] else Marked.plain "\n" ++ (c.tips.map labelled).flatten
  .as .error "error:" ++ .plain " " ++ c.headline ++ tips ++ usage ++ c.learnMore ++ .plain "\n"

end Complaint

end Kickstart.CommandLine
