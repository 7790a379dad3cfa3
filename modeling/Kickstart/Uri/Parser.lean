/-
# Kickstart.Uri.Parser -- reading URIs

`Uri.parse` reads a text as an absolute URI, by the rules that browsers and editors
share: controls and blanks around it are cut off, tabs and line breaks inside are
passed over, the scheme decides how the rest is read.

* The special schemes `http`, `https`, `ws`, `wss`, `ftp` and `file` have a host and
  a rooted path, and take a backslash for a slash.
* Any other scheme has a host after `//`, a rooted path after `/`, and otherwise a
  bare path.
-/
import Kickstart.Uri.Path

namespace Kickstart.Uri

set_option autoImplicit false

/-- Default ports of the special schemes; `file` has none. -/
def specialPort? : String → Option (Option Nat)
  | "http" => some (some 80)
  | "https" => some (some 443)
  | "ws" => some (some 80)
  | "wss" => some (some 443)
  | "ftp" => some (some 21)
  | "file" => some none
  | _ => none

/-- A special scheme. -/
def isSpecial (scheme : String) : Bool := (specialPort? scheme).isSome

/-! ## Pieces -/

/-- The text without controls and blanks around it. -/
def trim (t : Text) : Text :=
  let outer (c : Char) : Bool := c.toNat ≤ 0x20
  ((t.dropWhile outer).reverse.dropWhile outer).reverse

/-- The text without the characters that are passed over. -/
def solid (t : Text) : Text := t.filter fun c => !isIgnored c

/-- The first character and the rest, ignored ones passed over. -/
def uncons? (t : Text) : Option (Char × Text) :=
  match t.dropWhile isIgnored with
  | [] => none
  | c :: rest => some (c, rest)

/-- The rest after two characters that satisfy a test. -/
def afterPair? (test : Char → Bool) (t : Text) : Option Text := do
  let (a, t) ← uncons? t
  let (b, t) ← uncons? t
  if test a && test b then some t else none

/-- A character that may follow the first one of a scheme. -/
def inScheme (c : Char) : Bool :=
  isLetter c || ('0' ≤ c && c ≤ '9') || c = '+' || c = '-' || c = '.'

/-- The scheme, in lower case, and the rest after its colon. -/
def splitScheme? (t : Text) : Option (String × Text) :=
  match t.span (· ≠ ':') with
  | (front, _ :: rest) =>
    match solid front with
    | c :: more =>
      if isLetter c && more.all inScheme then
        some (String.ofList ((c :: more).map Char.toLower), rest)
      else none
    | [] => none
  | (_, []) => none

/-! ## Authorities -/

/-- The character ends an authority. -/
def endsAuthority (special : Bool) (c : Char) : Bool := isSlash special c || c = '?' || c = '#'

/-- What stands before the last `@`, if there is one, and what stands after it. -/
def splitUserinfo (t : Text) : Option Text × Text :=
  match (Text.splitAt '@' t).reverse with
  | host :: before :: more =>
    (some ((before :: more).reverse.intersperse ['@'] |>.flatten), host)
  | _ => (none, t)

/-- User name and password in their written form; empty ones are left out. -/
def renderUserinfo (t : Text) : String :=
  let (user, rest) := t.span (· ≠ ':')
  let password := rest.drop 1
  String.ofList (escape inUserinfo user ++
    (if password = [] then [] else ':' :: escape inUserinfo password))

/-- User and password in front of a host, and the rest.  An `@` with nothing before it
needs a host after it, unless it ends the text. -/
def readUserinfo (special : Bool) (t : Text) : Except Fault (String × Text) :=
  let (authority, after) := t.span fun c => !endsAuthority special c
  match splitUserinfo (solid authority) with
  | (none, _) => .ok ("", t)
  | (some [], []) => if after = [] then .ok ("", []) else .error .emptyHost
  | (some before, host) => .ok (renderUserinfo before, host ++ after)

/-- The text of a host, and the rest; a colon inside brackets does not end it. -/
def spanHost (special inside : Bool) : Text → Text × Text
  | [] => ([], [])
  | c :: rest =>
    if endsAuthority special c || (c = ':' && !inside) then ([], c :: rest)
    else
      let inside := if c = '[' then true else if c = ']' then false else inside
      let (host, after) := spanHost special inside rest
      (c :: host, after)

/-- The digits of a port up to a value of sixteen bits, and the rest. -/
def scanPort (value : Option Nat) : Text → Except Fault (Option Nat × Text)
  | [] => .ok (value, [])
  | c :: rest =>
    if isIgnored c then scanPort value rest
    else match digitsValue? 10 [c] with
      | some d =>
        let n := 10 * value.getD 0 + d
        if n < 65536 then scanPort (some n) rest else .error .badPort
      | none => if endsAuthority true c then .ok (value, c :: rest) else .error .badPort

/-- A port after a colon, if there is one, and the rest; the default one and an empty one
count as none. -/
def readPort (default : Option Nat) (t : Text) : Except Fault (Option Nat × Text) :=
  match uncons? t with
  | some (':', rest) =>
    (scanPort none rest).map fun (port, after) => (if port = default then none else port, after)
  | _ => .ok (none, t)

/-- User, host and port, and the rest. -/
def readAuthority (scheme : String) (t : Text) : Except Fault (Authority × Text) := do
  let special := isSpecial scheme
  let (userinfo, t) ← readUserinfo special t
  let (hostText, t) := spanHost special false t
  let host ← if special then specialHost (solid hostText) else plainHost (solid hostText)
  if host = [] ∧ t.head? = some ':' then throw .emptyHost
  let (port, t) ← readPort ((specialPort? scheme).join) t
  if host = [] ∧ userinfo ≠ "" then throw .emptyHost
  return (⟨userinfo, String.ofList host, port⟩, t)

/-! ## The whole -/

/-- Path text, query and fragment. -/
def splitTail (t : Text) : Text × Option Text × Option Text :=
  let (front, fragment) := t.span (· ≠ '#')
  let (path, query) := front.span (· ≠ '?')
  let after (part : Text) : Option Text := if part = [] then none else some (part.drop 1)
  (path, after query, after fragment)

/-- A URI from its parts, query and fragment escaped. -/
def assemble (scheme : String) (authority : Option Authority) (route : Route)
    (query fragment : Option Text) : Uri :=
  { scheme, authority, route
    query := query.map fun q => String.ofList (escape (inQuery (isSpecial scheme)) (solid q))
    fragment := fragment.map fun f => String.ofList (escape inFragment (solid f)) }

/-- A URI from its authority and the text after it, with what is written of its path. -/
def complete (scheme : String) (authority : Option Authority) (written : Text) (t : Text) : Uri :=
  let (path, query, fragment) := splitTail t
  let hosted := (authority.map (·.host)).getD "" ≠ ""
  let p := PathState.read scheme (isSpecial scheme) ⟨written, hosted⟩ path
  let authority := if p.hosted then authority else authority.map ({ · with host := "" })
  assemble scheme authority p.route query fragment

/-- The rest after the host of a special scheme, without a slash at its front. -/
def dropSlash (t : Text) : Text :=
  match uncons? t with
  | some (c, rest) => if isSlash true c then rest else t
  | none => t

/-- The rest of a `file` URI. -/
def readFile (t : Text) : Except Fault Uri := do
  let authority (host : Text) : Option Authority := some ⟨"", String.ofList host, none⟩
  match afterPair? (isSlash true) t with
  | some rest =>
    let (hostText, after) := rest.span fun c => !endsAuthority true c
    if isDrive (solid hostText) then return complete "file" (authority []) ['/'] rest
    else
      let host ← if solid hostText = [] then pure [] else specialHost (solid hostText)
      if host = [] ∨ host = "localhost".toList then
        return complete "file" (authority []) ['/'] after
      else return complete "file" (authority host) ['/'] (dropSlash after)
  | none =>
    match uncons? t with
    | some (c, _) => return complete "file" (authority []) (if isSlash true c then [] else ['/']) t
    | none => return complete "file" (authority []) ['/'] t

/-- The rest of a URI of another special scheme: any number of slashes, then the
authority. -/
def readSpecial (scheme : String) (t : Text) : Except Fault Uri := do
  let (authority, rest) ←
    readAuthority scheme (t.dropWhile fun c => isSlash true c || isIgnored c)
  return complete scheme (some authority) ['/'] (dropSlash rest)

/-- The rest of a URI of any other scheme. -/
def readPlain (scheme : String) (t : Text) : Except Fault Uri := do
  match afterPair? (· = '/') t, uncons? t with
  | some rest, _ =>
    let (authority, rest) ← readAuthority scheme rest
    let opening : Text := match uncons? rest with
      | some (c, _) => if c = '/' || c = '?' || c = '#' then [] else ['/']
      | none => []
    return complete scheme (some authority) opening rest
  | none, some ('/', rest) => return complete scheme none ['/'] rest
  | none, _ =>
    let (path, query, fragment) := splitTail t
    let bare := String.ofList (escape isControl (solid path))
    return assemble scheme none (.bare bare) query fragment

/-- The URI that a text stands for. -/
def parse (s : String) : Except Fault Uri :=
  match splitScheme? (trim s.toList) with
  | none => .error .noScheme
  | some (scheme, rest) =>
    if scheme = "file" then readFile rest
    else if isSpecial scheme then readSpecial scheme rest
    else readPlain scheme rest

end Kickstart.Uri
