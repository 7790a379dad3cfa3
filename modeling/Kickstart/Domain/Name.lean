/-
# Kickstart.Domain.Name -- international domain names

A domain name is written in ASCII: labels with dots between them, where a label with
other characters is `xn--` and its punycode.  `Name.ascii?` gives that form of a name in
any characters.  Characters become what they are compared as, and the result is put in
composed form; then each label is checked.  A label that is already in punycode has to
say something that needs it.  No label starts with a mark, joiners stand only where
they matter, and if any label runs to the left, every label keeps to one direction.
-/
import Kickstart.Domain.Mapping
import Kickstart.Domain.Punycode
import Kickstart.Text.Composition
import Kickstart.Text.Direction
import Kickstart.Text.Joining

namespace Kickstart.Domain

set_option autoImplicit false

/-! ## Joiners -/

/-- The character that keeps letters from joining. -/
def nonJoiner : Char := '\u200c'

/-- The character that makes letters join. -/
def joiner : Char := '\u200d'

/-- The combining class of signs that take away a vowel. -/
def vowelKiller : Nat := 9

/-- The first character that is not transparent has a property. -/
def reaches (p : Char → Bool) (t : Text) : Bool :=
  (t.dropWhile Text.isTransparent).head?.any p

/-- A joiner may stand between what comes before it, the last character first, and what
follows. -/
def joinerFits (before : Text) (c : Char) (after : Text) : Bool :=
  match before with
  | [] => false
  | last :: _ =>
    Text.combiningClass last = vowelKiller ||
      (c = nonJoiner && reaches Text.joinsAfter before && reaches Text.joinsBefore after)

/-- All joiners of a text fit, after some characters, the last of which comes first. -/
def joinersFit (before : Text) : Text → Bool
  | [] => true
  | c :: rest =>
    (if c = nonJoiner || c = joiner then joinerFits before c rest else true) &&
      joinersFit (c :: before) rest

/-! ## Directions -/

/-- A text has a character that runs to the left. -/
def runsLeft (t : Text) : Bool :=
  t.any fun c => Text.direction c = .leftward || Text.direction c = .arabicNumber

/-- A label keeps to one direction: that of its first letter, with numbers of one kind,
and with a letter or number at its end. -/
def keepsDirection (t : Text) : Bool :=
  let directions := t.map Text.direction
  let last? := directions.reverse.find? (· ≠ .mark)
  match directions with
  | [] => true
  | .rightward :: _ =>
    directions.all (fun d => d ≠ .leftward && d ≠ .arabicNumber) &&
      (last? = some .rightward || last? = some .europeanNumber)
  | .leftward :: _ =>
    directions.all (· ≠ .rightward) && last? ≠ some .neutral &&
      !(directions.contains .europeanNumber && directions.contains .arabicNumber)
  | _ => false

/-! ## Labels -/

/-- A label of a domain name. -/
structure Label where
  /-- Its form in ASCII. -/
  written : Text
  /-- What it says. -/
  meant : Text
  deriving Repr, DecidableEq

namespace Label

/-- What a label in punycode starts with. -/
def sign : Text := "xn--".toList

/-- The longest text that is written in punycode. -/
def longestMeant : Nat := 1000

/-- The longest punycode that is read. -/
def longestWritten : Nat := 2000

/-- The text starts with no mark, and its joiners fit. -/
def isSound (t : Text) : Bool := !(t.head?.any Text.isMark) && joinersFit [] t

/-- A label from its punycode. -/
def ofPunycode? (t : Text) : Option Label :=
  let code := t.drop sign.length
  if t.getLast? = some '-' ∨ longestWritten < code.length then none
  else match Punycode.decode? code with
    | none => none
    | some meant =>
      if meant.all isKept && Text.composed meant = meant && isSound meant then some ⟨t, meant⟩
      else none

/-- A label whose characters have become what they are compared as. -/
def ofFolded? (t : Text) : Option Label :=
  if sign.isPrefixOf t then ofPunycode? t
  else if t.all fun c => c.toNat < 0x80 then some ⟨t, t⟩
  else if isSound t && t.length ≤ longestMeant then some ⟨sign ++ Punycode.encode t, t⟩
  else none

end Label

/-! ## Names -/

namespace Name

/-- ASCII characters that no name holds. -/
def isDenied (c : Char) : Bool :=
  c.toNat ≤ 0x20 || c.toNat = 0x7F ||
    ['%', '#', '/', ':', '<', '>', '?', '@', '[', '\\', ']', '^', '|'].contains c

/-- The characters of a name as they are compared, if all of them may stand in one. -/
def folded? (t : Text) : Option Text :=
  match t.mapM Domain.folded? with
  | none => none
  | some pieces =>
    let name := Text.composed pieces.flatten
    if name.any isDenied then none else some name

/-- The labels of a name. -/
def labels? (t : Text) : Option (List Label) :=
  match folded? t with
  | none => none
  | some name =>
    match (Text.splitAt '.' name).mapM Label.ofFolded? with
    | none => none
    | some labels =>
      if labels.any (fun l => runsLeft l.meant) && !labels.all (fun l => keepsDirection l.meant)
      then none
      else some labels

/-- The form of a name in ASCII. -/
def ascii? (t : Text) : Option Text :=
  (labels? t).map fun labels => ((labels.map Label.written).intersperse ['.']).flatten

end Name

end Kickstart.Domain
