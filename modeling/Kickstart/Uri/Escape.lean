/-
# Kickstart.Uri.Escape -- percent escapes

A byte that may not stand in a part of a URI is written as `%` and two upper-case
hexadecimal digits.  Which ASCII characters those are depends on the part; bytes
outside ASCII are always escaped.  Escapes that are already there are left alone:
`%` itself is escaped nowhere.
-/
import Kickstart.Text.Utf8

namespace Kickstart.Uri

set_option autoImplicit false

/-- Upper-case hexadecimal digit of a number below 16. -/
def hexDigit (n : Nat) : Char :=
  if n < 10 then Char.ofNat ('0'.toNat + n) else Char.ofNat ('A'.toNat + (n - 10))

/-- One byte as an escape. -/
def escapeByte (b : UInt8) : Text := ['%', hexDigit (b.toNat / 16), hexDigit (b.toNat % 16)]

/-- A character in a part where the ASCII characters of `reserved` are escaped. -/
def escapeChar (reserved : Char → Bool) (c : Char) : Text :=
  if c.toNat < 0x80 ∧ reserved c = false then [c] else (Text.encodeChar c).flatMap escapeByte

/-- A text in a part where the ASCII characters of `reserved` are escaped. -/
def escape (reserved : Char → Bool) (t : Text) : Text := t.flatMap (escapeChar reserved)

/-- Controls: escaped in every part. -/
def isControl (c : Char) : Bool := c.toNat < 0x20 || c.toNat = 0x7F

/-- Escaped in a fragment. -/
def inFragment (c : Char) : Bool := isControl c || [' ', '"', '<', '>', '\x60'].contains c

/-- Escaped in a query; a quote only where the scheme is a special one. -/
def inQuery (special : Bool) (c : Char) : Bool :=
  isControl c || [' ', '"', '#', '<', '>'].contains c || (special && c = '\x27')

/-- Escaped in a path. -/
def inPath (c : Char) : Bool := inFragment c || ['#', '?', '\x7b', '\x7d'].contains c

/-- Escaped in a user name or password. -/
def inUserinfo (c : Char) : Bool :=
  inPath c || ['/', ':', ';', '=', '@', '[', '\\', ']', '^', '|'].contains c

/-- The value of a hexadecimal digit. -/
def hexValue? (c : Char) : Option Nat :=
  if '0' ≤ c ∧ c ≤ '9' then some (c.toNat - '0'.toNat)
  else if 'a' ≤ c ∧ c ≤ 'f' then some (c.toNat - 'a'.toNat + 10)
  else if 'A' ≤ c ∧ c ≤ 'F' then some (c.toNat - 'A'.toNat + 10)
  else none

/-- The bytes a text with escapes stands for.  A `%` that starts no escape stands
for itself. -/
def unescape : Text → Bytes
  | [] => []
  | '%' :: a :: b :: rest =>
    match hexValue? a, hexValue? b with
    | some x, some y => (16 * x + y).toUInt8 :: unescape rest
    | _, _ => '%'.toNat.toUInt8 :: unescape (a :: b :: rest)
  | c :: rest => Text.encodeChar c ++ unescape rest

end Kickstart.Uri
