/-
# Kickstart.Uri.Host -- hosts

The host of a URI is a name, an IPv4 address or an IPv6 address between brackets.
For the schemes of the web (and `file`) a name is a domain name, and one that ends in a
number has to be an IPv4 address in any of the forms those have: one to four parts,
decimal, octal or hexadecimal.  The host of any other scheme keeps its spelling.
-/
import Kickstart.Domain.Name
import Kickstart.Uri.Escape

namespace Kickstart.Uri

set_option autoImplicit false

/-- Why a text is not a URI. -/
inductive Fault where
  | noScheme
  | emptyHost
  | badName
  | badPort
  | badIpv4
  | badIpv6
  | badHostChar
  deriving Repr, DecidableEq

/-- The wording of a fault. -/
def Fault.message : Fault → String
  | .noScheme => "relative URL without a base"
  | .emptyHost => "empty host"
  | .badName => "invalid international domain name"
  | .badPort => "invalid port number"
  | .badIpv4 => "invalid IPv4 address"
  | .badIpv6 => "invalid IPv6 address"
  | .badHostChar => "invalid domain character"

/-! ## IPv4 -/

/-- The value of digits in a base, if all of them are digits of it. -/
def digitsValue? (base : Nat) (digits : Text) : Option Nat :=
  digits.foldl
    (fun n c => match n, hexValue? c with
      | some n, some d => if d < base then some (base * n + d) else none
      | _, _ => none)
    (some 0)

/-- One part of an IPv4 address: hexadecimal after `0x`, octal after `0`. -/
def ipv4Part? : Text → Option Nat
  | [] => none
  | '0' :: x :: rest =>
    if x = 'x' ∨ x = 'X' then digitsValue? 16 rest else digitsValue? 8 (x :: rest)
  | digits => digitsValue? 10 digits

/-- The parts of a name, without the empty one after a final dot. -/
def nameParts (name : Text) : List Text :=
  let parts := Text.splitAt '.' name
  if 1 < parts.length ∧ parts.getLast? = some [] then parts.dropLast else parts

/-- The name's last part is a number, so the whole has to be an IPv4 address. -/
def endsInNumber (name : Text) : Bool :=
  match (nameParts name).getLast? with
  | none => false
  | some [] => false
  | some part =>
    part.all (fun c => '0' ≤ c && c ≤ '9') ||
      (match part with
        | '0' :: x :: rest => (x = 'x' || x = 'X') && (digitsValue? 16 rest).isSome
        | _ => false)

/-- An IPv4 address as one number. -/
def ipv4? (name : Text) : Option Nat := do
  let parts := nameParts name
  if 4 < parts.length then none
  let numbers ← parts.mapM ipv4Part?
  let last ← numbers.getLast?
  let leading := numbers.dropLast
  if leading.any (255 < ·) ∨ Nat.pow 256 (5 - numbers.length) ≤ last then none
  let weighted := leading.zipIdx.map fun (n, i) => n * Nat.pow 256 (3 - i)
  return weighted.foldl (· + ·) last

/-- Four decimal parts with dots. -/
def renderIpv4 (n : Nat) : Text :=
  let part (i : Nat) : Text := Nat.toDigits 10 (n / Nat.pow 256 i % 256)
  part 3 ++ '.' :: part 2 ++ '.' :: part 1 ++ '.' :: part 0

/-! ## IPv6 -/

/-- The pieces of one side of `::`, sixteen bits each; a dotted part may stand last. -/
def ipv6Pieces? : List Text → Option (List Nat)
  | [] => some []
  | [last] =>
    if last.contains '.' then
      let parts := Text.splitAt '.' last
      if parts.length = 4 ∧
          parts.all (fun p => p ≠ [] ∧ (p.length = 1 ∨ p.head? ≠ some '0')) then
        match parts.mapM (digitsValue? 10) with
        | some [a, b, c, d] =>
          if a < 256 ∧ b < 256 ∧ c < 256 ∧ d < 256 then some [a * 256 + b, c * 256 + d] else none
        | _ => none
      else none
    else if last = [] ∨ 4 < last.length then none
    else (digitsValue? 16 last).map ([·])
  | piece :: rest =>
    if piece = [] ∨ 4 < piece.length then none
    else match digitsValue? 16 piece, ipv6Pieces? rest with
      | some n, some ns => some (n :: ns)
      | _, _ => none

/-- The two sides of the first `::`, if there is one. -/
def splitGap : Text → Text × Option Text
  | ':' :: ':' :: rest => ([], some rest)
  | [] => ([], none)
  | c :: rest =>
    let (left, right) := splitGap rest
    (c :: left, right)

/-- The pieces of one side; an empty side has none. -/
def ipv6Side? (t : Text) : Option (List Nat) :=
  if t = [] then some [] else ipv6Pieces? (Text.splitAt ':' t)

/-- The eight pieces of an IPv6 address. -/
def ipv6? (t : Text) : Option (List Nat) :=
  match splitGap t with
  | (all, none) =>
    match ipv6Side? all with
    | some pieces => if pieces.length = 8 then some pieces else none
    | none => none
  | (left, some right) =>
    if left.contains '.' then none
    else match ipv6Side? left, ipv6Side? right with
      | some before, some after =>
        if before.length + after.length < 8 then
          some (before ++ List.replicate (8 - before.length - after.length) 0 ++ after)
        else none
      | _, _ => none

/-- How many zeros a list of pieces starts with. -/
def zeroRun (pieces : List Nat) : Nat := (pieces.takeWhile (· = 0)).length

/-- Start and length of the first longest run of at least two zeros. -/
def longestGap (pieces : List Nat) : Option (Nat × Nat) :=
  (List.range pieces.length).foldl
    (fun best i =>
      let run := zeroRun (pieces.drop i)
      if 2 ≤ run ∧ best.all (fun (_, length) => length < run) then some (i, run) else best)
    none

/-- Pieces in hexadecimal with colons. -/
def renderPieces (pieces : List Nat) : Text :=
  (pieces.map fun n => Nat.toDigits 16 n).intersperse [':'] |>.flatten

/-- An IPv6 address with its longest run of zeros left out. -/
def renderIpv6 (pieces : List Nat) : Text :=
  match longestGap pieces with
  | none => renderPieces pieces
  | some (start, length) =>
    renderPieces (pieces.take start) ++ [':', ':'] ++ renderPieces (pieces.drop (start + length))

/-! ## Hosts -/

/-- Characters that no host holds. -/
def isForbidden (c : Char) : Bool :=
  c.toNat = 0 ||
    ['\t', '\n', '\r', ' ', '#', '/', ':', '<', '>', '?', '@', '[', '\\', ']', '^', '|'].contains c

/-- The written form of an address between brackets. -/
def bracketed (t : Text) : Except Fault Text :=
  match t.getLast?, ipv6? t.dropLast with
  | some ']', some pieces => .ok ('[' :: renderIpv6 pieces ++ [']'])
  | _, _ => .error .badIpv6

/-- The written form of a host of a web scheme. -/
def specialHost : Text → Except Fault Text
  | '[' :: rest => bracketed rest
  | t =>
    match Domain.Name.ascii? (Text.decodeLossy (unescape t)) with
    | none => .error .badName
    | some [] => .error .emptyHost
    | some name =>
      if endsInNumber name then
        match ipv4? name with
        | some n => .ok (renderIpv4 n)
        | none => .error .badIpv4
      else .ok name

/-- The written form of a host of any other scheme. -/
def plainHost : Text → Except Fault Text
  | '[' :: rest => bracketed rest
  | t => if t.any isForbidden then .error .badHostChar else .ok (escape isControl t)

end Kickstart.Uri
