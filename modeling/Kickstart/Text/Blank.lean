/-
# Kickstart.Text.Blank -- white space and words

`Text` is the type of everything this library cuts, searches or measures: a list
of Unicode scalar values.  White space is the Unicode property `White_Space`,
not the ASCII blanks: `isBlank` is its table.  A word is a maximal run without
white space; trimming removes white space at an end.  `splitAt` cuts at a character.
-/

namespace Kickstart

set_option autoImplicit false

/-- Text to be cut, searched or measured, one Unicode scalar value at a time. -/
abbrev Text := List Char

namespace Text

/-- The Unicode property `White_Space`. -/
def isBlank (c : Char) : Bool :=
  let n := c.toNat
  (9 ≤ n && n ≤ 13) || n == 0x20 || n == 0x85 || n == 0xA0 || n == 0x1680 ||
    (0x2000 ≤ n && n ≤ 0x200A) || n == 0x2028 || n == 0x2029 || n == 0x202F ||
    n == 0x205F || n == 0x3000

/-- The text without the white space it starts with. -/
def trimStart (t : Text) : Text := t.dropWhile isBlank

/-- The text without the white space it ends with. -/
def trimEnd (t : Text) : Text := (t.reverse.dropWhile isBlank).reverse

/-- The text without white space at either end. -/
def trim (t : Text) : Text := trimEnd (trimStart t)

/-- The first word, if the text is not all white space. -/
def firstWord? (t : Text) : Option Text :=
  match (trimStart t).takeWhile (fun c => !isBlank c) with
  | [] => none
  | word => some word

/-- The pieces between occurrences of a character: one more than there are of it. -/
def splitAt (separator : Char) : Text → List Text
  | [] => [[]]
  | c :: rest =>
    if c = separator then [] :: splitAt separator rest
    else match splitAt separator rest with
      | [] => [[c]]
      | piece :: pieces => (c :: piece) :: pieces

/-- Whether `part` occurs somewhere in the text. -/
def occursIn (part : Text) : Text → Bool
  | [] => part.isEmpty
  | c :: rest => part.isPrefixOf (c :: rest) || occursIn part rest

end Text

end Kickstart
