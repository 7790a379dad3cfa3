/-
# Kickstart.Text.Quoted -- a text shown between quotes

Messages show a text they complain about between double quotes.  A quote and a
backslash inside are escaped, tab, line feed, carriage return and NUL have
escapes of their own, and a character that does not show on its own
(`Text.isPrintable`) is written as `\u` with its code point in hexadecimal
between braces.  Every other character stands for itself.
-/
import Kickstart.Text.Printable

namespace Kickstart.Text

set_option autoImplicit false

/-- One character of a quoted text. -/
def quoteChar (c : Char) : Text :=
  if c = '"' then ['\\', '"']
  else if c = '\\' then ['\\', '\\']
  else if c = '\n' then ['\\', 'n']
  else if c = '\r' then ['\\', 'r']
  else if c = '\t' then ['\\', 't']
  else if c.toNat = 0 then ['\\', '0']
  else if isPrintable c then [c]
  else ['\\', 'u', '\x7b'] ++ Nat.toDigits 16 c.toNat ++ ['\x7d']

/-- The text between quotes. -/
def quote (t : Text) : Text := '"' :: t.flatMap quoteChar ++ ['"']

end Kickstart.Text
