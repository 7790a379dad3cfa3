/-
# Kickstart.Text.Similarity -- how much two words are alike

The Jaro measure.  A character of one word matches the first equal character of the
other that is free and not too far away.  The measure is the mean of three parts: of
either word the share that matches, and of the matches the share that stands in the
same order.  It lies between 0 and 1 and is worked out in binary64, each step rounded:
a measure of seven tenths may come out a little above or below that bound, and on which
side decides whether words count as alike.
-/
import Kickstart.Decimal.Binary64
import Kickstart.Text.Blank

namespace Kickstart

set_option autoImplicit false

open Decimal (Binary64)

namespace Text

/-- Takes the first free character equal to `c` between two places; `j` is the place of
the first one listed. -/
def pairOff (c : Char) (low high j : Nat) : List (Char × Bool) → Option (List (Char × Bool))
  | [] => none
  | (d, taken) :: rest =>
    if low ≤ j && j < high && !taken && c == d then some ((d, true) :: rest)
    else (pairOff c low high (j + 1) rest).map ((d, taken) :: ·)

/-- The characters that match, in the order of either word; `i` is the place of the
first character. -/
def matchUp (reach i : Nat) : Text → List (Char × Bool) → Text × Text
  | [], other => ([], (other.filter (·.2)).map (·.1))
  | c :: rest, other =>
    match pairOff c (i - reach) (i + reach + 1) 0 other with
    | none => matchUp reach (i + 1) rest other
    | some other =>
      let (mine, theirs) := matchUp reach (i + 1) rest other
      (c :: mine, theirs)

/-- The mean of three shares. -/
def meanShare (matched inOrder a b : Nat) : Binary64 :=
  let share (n m : Nat) : Binary64 := (Binary64.ofNat n).div (.ofNat m)
  (((share matched a).add (share matched b)).add (share inOrder matched)).div (.ofNat 3)

/-- The Jaro measure of two words. -/
def similarity (a b : Text) : Binary64 :=
  if a = [] ∧ b = [] then .ofNat 1
  else
    let reach := max a.length b.length / 2 - 1
    let (mine, theirs) := matchUp reach 0 a (b.map fun c => (c, false))
    let matched := mine.length
    if matched = 0 then .ofNat 0
    else
      let swapped := ((mine.zip theirs).filter fun (c, d) => c ≠ d).length / 2
      meanShare matched (matched - swapped) a.length b.length

/-- Words that are alike enough to be taken for one another. -/
def areAlike (a b : Text) : Bool := (Binary64.ofRatio 7 10).less (similarity a b)

/-- Puts a word after all that are at most as alike. -/
def insertByLikeness (word : String) (likeness : Binary64) :
    List (String × Binary64) → List (String × Binary64)
  | [] => [(word, likeness)]
  | (other, f) :: rest =>
    if likeness.less f then (word, likeness) :: (other, f) :: rest
    else (other, f) :: insertByLikeness word likeness rest

/-- The words that are alike to one, the most alike last. -/
def alikeTo (given : String) (words : List String) : List String :=
  let alike := words.filter fun word => areAlike given.toList word.toList
  (alike.foldl
    (fun sorted word =>
      insertByLikeness word (similarity given.toList word.toList) sorted)
    []).map (·.1)

end Text

end Kickstart
