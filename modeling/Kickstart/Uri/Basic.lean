/-
# Kickstart.Uri.Basic -- URIs in normal form

A `Uri` is kept in the form it is compared and printed in: scheme and host in
lower case, dot segments resolved, characters that may not stand escaped, default
ports left out.  `Uri.text` prints it.

A URI without a host spells a path on this machine, `Uri.localPath?`, and so does one with
this machine's own name.  If its scheme is `file` it names the file there: `Uri.filePath?`.
Query and fragment do not matter to either.
-/
import Kickstart.Uri.Host

namespace Kickstart

set_option autoImplicit false

namespace Uri

/-- The path of a URI. -/
inductive Route where
  /-- Segments below a root, each written after a slash. -/
  | rooted (segments : List String)
  /-- Text that is not divided into segments. -/
  | bare (text : String)
  deriving Repr, DecidableEq

/-- Who is asked: user, host and port; the host may be empty. -/
structure Authority where
  userinfo : String
  host : String
  port : Option Nat
  deriving Repr, DecidableEq

end Uri

/-- A URI in normal form. -/
structure Uri where
  scheme : String
  authority : Option Uri.Authority
  route : Uri.Route
  query : Option String
  fragment : Option String
  deriving Repr, DecidableEq

namespace Uri

/-- The empty path of an unnamed scheme: where a record has no URI yet. -/
instance : Inhabited Uri := ⟨⟨"", none, .bare "", none, none⟩⟩

/-- A path as text. -/
def Route.text : Route → String
  | .rooted segments => String.join (segments.map fun s => "/" ++ s)
  | .bare text => text

/-- An authority as text. -/
def Authority.text (a : Authority) : String :=
  (if a.userinfo = "" then "" else a.userinfo ++ "@") ++ a.host ++
    (match a.port with
      | some port => ":" ++ toString port
      | none => "")

/-- The written form.  Without an authority, a path that starts with an empty
segment is set off by a dot. -/
def text (u : Uri) : String :=
  u.scheme ++ ":" ++
    (match u.authority, u.route with
      | some a, _ => "//" ++ a.text
      | none, .rooted ("" :: _ :: _) => "/."
      | none, _ => "") ++
    u.route.text ++
    (match u.query with
      | some q => "?" ++ q
      | none => "") ++
    (match u.fragment with
      | some f => "#" ++ f
      | none => "")

/-- The URI names a file, of whatever machine. -/
def isFile (u : Uri) : Bool := u.scheme = "file"

/-- A drive letter at the end of a path stands for the root of that drive. -/
def endsInDrive (bytes : Bytes) : Bool :=
  match bytes.reverse with
  | mark :: letter :: _ :: _ =>
    (mark = 0x3A || mark = 0x7C) &&
      ((0x41 ≤ letter && letter ≤ 0x5A) || (0x61 ≤ letter && letter ≤ 0x7A))
  | _ => false

/-- No other machine is named. -/
def isHere (u : Uri) : Bool :=
  match u.authority with
  | some a => a.host = "" || a.host = "localhost"
  | none => true

/-- The path on this machine that the URI spells, whatever its scheme. -/
def localPath? (u : Uri) : Option Bytes :=
  match u.isHere, u.route with
  | true, .rooted segments =>
    let bytes := segments.flatMap fun s => 0x2F :: unescape s.toList
    some (if endsInDrive bytes then bytes ++ [0x2F] else bytes)
  | _, _ => none

/-- The path of the file of this machine that the URI names. -/
def filePath? (u : Uri) : Option Bytes := if u.isFile then u.localPath? else none

end Uri

end Kickstart
