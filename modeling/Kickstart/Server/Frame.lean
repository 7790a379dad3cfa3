/-
# Kickstart.Server.Frame -- messages on a stream

On a stream every message is a frame: header lines, an empty line, and the JSON text.
One header says how many bytes the text has; all others are passed over.
-/
import Kickstart.Json.Printer

namespace Kickstart.Server.Frame

set_option autoImplicit false

/-- The header that counts. -/
def lengthHeader : String := "Content-Length: "

/-- A value as a frame. -/
def render (j : Json) : String :=
  let body := j.render
  lengthHeader ++ toString body.utf8ByteSize ++ "\r\n\r\n" ++ body

/-- The digits a text starts with, as a number. -/
def leadingNumber (t : Text) : Nat :=
  (t.takeWhile Char.isDigit).foldl (fun n c => n * 10 + (c.toNat - '0'.toNat)) 0

/-- The length that a header line gives, if it gives one. -/
def length? (line : String) : Option Nat :=
  if lengthHeader.toList.isPrefixOf line.toList then
    some (leadingNumber (line.toList.drop lengthHeader.length))
  else none

/-- The line that ends the headers. -/
def isEnd (line : String) : Bool := line.toList.all fun c => c = '\r' || c = '\n'

end Kickstart.Server.Frame
