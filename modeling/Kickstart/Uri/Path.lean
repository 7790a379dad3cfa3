/-
# Kickstart.Uri.Path -- reading the path of a URI

A path is written down piece by piece, a piece being what stands between two slashes.
What is written stands in escaped form and starts with a slash.  A piece `.` leaves what
is written as it is, a piece `..` takes back the last segment, and any other piece is
added.  A slash after a drive letter is never taken back.

A `file` URI treats a drive letter as its first segment in a way of its own: the mark
after the letter becomes a colon, and the host is dropped.  At the end the path of a
`file` URI starts with exactly one slash.

Tabs and line breaks inside a path are passed over.  They do leave a trace in a `file`
URI: a drive letter that one of them follows is a segment by itself.
-/
import Kickstart.Uri.Basic

namespace Kickstart.Uri

set_option autoImplicit false

/-- A character that is passed over wherever it stands. -/
def isIgnored (c : Char) : Bool := c = '\t' || c = '\n' || c = '\r'

/-- An ASCII letter. -/
def isLetter (c : Char) : Bool := ('a' ≤ c && c ≤ 'z') || ('A' ≤ c && c ≤ 'Z')

/-- A slash, or a backslash where the scheme is special. -/
def isSlash (special : Bool) (c : Char) : Bool := c = '/' || (special && c = '\\')

/-! ## Segments -/

/-- A segment that means the segment itself. -/
def isDot (s : Text) : Bool := s.map Char.toLower ∈ ["." , "%2e"].map String.toList

/-- A segment that means the one above. -/
def isDotDot (s : Text) : Bool :=
  s.map Char.toLower ∈ ["..", ".%2e", "%2e.", "%2e%2e"].map String.toList

/-- A drive letter as a segment. -/
def isDrive (s : Text) : Bool :=
  match s with
  | [letter, mark] => isLetter letter && (mark = ':' || mark = '|')
  | _ => false

/-- A drive letter with a colon as a segment. -/
def isColonDrive (s : Text) : Bool := isDrive s && s.getLast? = some ':'

/-- A segment that starts with a drive letter, which a backslash may follow. -/
def startsWithDrive (s : Text) : Bool :=
  isDrive (s.take 2) && (s.drop 2).head?.all (· = '\\')

/-! ## What is written -/

/-- The pieces of a text: one more than it has slashes. -/
def pieces (special : Bool) (t : Text) : List Text :=
  Text.splitAt '/' (if special then t.map fun c => if c = '\\' then '/' else c else t)

/-- The parts of a piece between characters that are passed over. -/
def parts (piece : Text) : List Text :=
  Text.splitAt '\t' (piece.map fun c => if isIgnored c then '\t' else c)

/-- What is written after a further part of a piece: a slash sets it off from a drive
letter that is all there is of the path of a `file` URI. -/
def addPart (file : Bool) (written : Text) (part : Text) : Text :=
  if part = [] then written
  else if file && isColonDrive (written.drop 1) then written ++ '/' :: escape inPath part
  else written ++ escape inPath part

/-- What is written after a piece. -/
def addPiece (file : Bool) (written : Text) (piece : Text) : Text :=
  (parts piece).foldl (addPart file) written

/-- What is written, without its last segment; it ends in a slash before and after. -/
def parent (written : Text) : Text :=
  match (Text.splitAt '/' written.dropLast).reverse with
  | last :: above :: more =>
    if startsWithDrive last then written
    else ((above :: more).reverse.intersperse ['/']).flatten ++ ['/']
  | _ => written

/-- A path being read: what is written, and whether there is a host. -/
structure PathState where
  written : Text
  hosted : Bool
  deriving Repr, DecidableEq

/-- Takes in one piece; `more` says that a slash follows it. -/
def PathState.take (file : Bool) (p : PathState) (piece : Text) (more : Bool) : PathState :=
  let slash : Text := if more then ['/'] else []
  let written := addPiece file p.written piece
  let segment := written.drop p.written.length
  if isDotDot segment then { p with written := parent p.written }
  else if isDot segment then p
  else if file && p.written = ['/'] && isDrive segment then
    ⟨p.written ++ segment.take 1 ++ ':' :: slash, false⟩
  else { p with written := written ++ slash }

/-- Takes in pieces one after the other. -/
def PathState.takeAll (file : Bool) (p : PathState) : List Text → PathState
  | [] => p
  | [piece] => p.take file piece false
  | piece :: next :: rest => (p.take file piece true).takeAll file (next :: rest)

/-- Reads a path text after what is written already. -/
def PathState.read (scheme : String) (special : Bool) (p : PathState) (t : Text) : PathState :=
  let file := scheme = "file"
  let p := p.takeAll file (pieces special t)
  if file then { p with written := '/' :: p.written.dropWhile (· = '/') } else p

/-- The segments of what is written. -/
def PathState.route (p : PathState) : Route :=
  .rooted (((Text.splitAt '/' p.written).drop 1).map String.ofList)

end Kickstart.Uri
