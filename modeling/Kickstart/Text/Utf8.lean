/-
# Kickstart.Text.Utf8 -- text as bytes

`encode` writes a text as UTF-8.  Reading goes one byte at a time through a
small machine: between characters (`Decoder.idle`), or inside one with the range
that the next byte must lie in (`Decoder.inside`).  A byte outside that range
ends the damaged character and is looked at again as the start of the next one,
so every maximal damaged run is reported once.

`decode?` accepts undamaged bytes only; `decodeLossy` puts U+FFFD for each
damaged run.
-/
import Kickstart.Text.Blank

namespace Kickstart

set_option autoImplicit false

/-- Raw bytes, as files and programs hand them over. -/
abbrev Bytes := List UInt8

namespace Text

/-- UTF-8 of one scalar value. -/
def encodeChar (c : Char) : Bytes :=
  let n := c.toNat
  let tail (shift : Nat) : UInt8 := (0x80 + n / shift % 64).toUInt8
  if n < 0x80 then [n.toUInt8]
  else if n < 0x800 then [(0xC0 + n / 64).toUInt8, tail 1]
  else if n < 0x10000 then [(0xE0 + n / 4096).toUInt8, tail 64, tail 1]
  else [(0xF0 + n / 262144).toUInt8, tail 4096, tail 64, tail 1]

/-- UTF-8 of a text. -/
def encode (t : Text) : Bytes := t.flatMap encodeChar

/-- Where a reader of UTF-8 stands. -/
inductive Decoder where
  /-- Between two characters. -/
  | idle
  /-- Inside a character: `wanted` more bytes, the next one between `low` and
  `high`; `value` collects the bits read. -/
  | inside (wanted : Nat) (low high : UInt8) (value : Nat)
  deriving Repr, DecidableEq

namespace Decoder

/-- What the first byte of a character says: a whole character, or how to go on;
`none` in the output marks a damaged run. -/
def start (b : UInt8) : List (Option Char) × Decoder :=
  if b < 0x80 then ([some (Char.ofNat b.toNat)], .idle)
  else if b < 0xC2 then ([none], .idle)
  else if b < 0xE0 then ([], .inside 1 0x80 0xBF (b.toNat - 0xC0))
  else if b < 0xF0 then
    ([], .inside 2 (if b = 0xE0 then 0xA0 else 0x80) (if b = 0xED then 0x9F else 0xBF)
      (b.toNat - 0xE0))
  else if b < 0xF5 then
    ([], .inside 3 (if b = 0xF0 then 0x90 else 0x80) (if b = 0xF4 then 0x8F else 0xBF)
      (b.toNat - 0xF0))
  else ([none], .idle)

/-- One byte further. -/
def feed : Decoder → UInt8 → List (Option Char) × Decoder
  | .idle, b => start b
  | .inside wanted low high value, b =>
    if low ≤ b ∧ b ≤ high then
      let value := value * 64 + (b.toNat - 0x80)
      if wanted ≤ 1 then ([some (Char.ofNat value)], .idle)
      else ([], .inside (wanted - 1) 0x80 0xBF value)
    else
      let (out, next) := start b
      (none :: out, next)

/-- Everything the bytes hold; an unfinished character at the end is damaged. -/
def run : Decoder → Bytes → List (Option Char)
  | .idle, [] => []
  | .inside .., [] => [none]
  | state, b :: rest =>
    let (out, next) := feed state b
    out ++ run next rest

end Decoder

/-- The text that undamaged UTF-8 stands for. -/
def decode? (bytes : Bytes) : Option Text :=
  (Decoder.run .idle bytes).foldr
    (fun c rest => match c, rest with
      | some c, some rest => some (c :: rest)
      | _, _ => none)
    (some [])

/-- The text of bytes of any kind, U+FFFD standing for each damaged run. -/
def decodeLossy (bytes : Bytes) : Text :=
  (Decoder.run .idle bytes).map fun c => c.getD (Char.ofNat 0xFFFD)

end Text

end Kickstart
