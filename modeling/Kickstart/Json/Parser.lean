/-
# Kickstart.Json.Parser -- reading JSON text

`Json.parse?` reads one value with blanks around it.  A number keeps all its digits.
Nesting is followed with a depth that the length of the text bounds.
-/
import Kickstart.Json.Value

namespace Kickstart.Json

set_option autoImplicit false

/-- The rest after the blanks of JSON: space, tab, line feed, carriage return. -/
def skipBlanks : Text → Text :=
  List.dropWhile fun c => c = ' ' || c = '\t' || c = '\n' || c = '\r'

/-! ## Strings -/

/-- The value of a hexadecimal digit. -/
def hexValue? (c : Char) : Option Nat :=
  if '0' ≤ c ∧ c ≤ '9' then some (c.toNat - '0'.toNat)
  else if 'a' ≤ c ∧ c ≤ 'f' then some (c.toNat - 'a'.toNat + 10)
  else if 'A' ≤ c ∧ c ≤ 'F' then some (c.toNat - 'A'.toNat + 10)
  else none

/-- The number four hexadecimal digits stand for. -/
def hexValue4? (a b c d : Char) : Option Nat := do
  return (((← hexValue? a) * 16 + (← hexValue? b)) * 16 + (← hexValue? c)) * 16 + (← hexValue? d)

/-- The character of a one-letter escape. -/
def letterEscape? (c : Char) : Option Char :=
  match c with
  | '"' => some '"'
  | '\\' => some '\\'
  | '/' => some '/'
  | 'b' => some (Char.ofNat 8)
  | 'f' => some (Char.ofNat 12)
  | 'n' => some '\n'
  | 'r' => some '\r'
  | 't' => some '\t'
  | _ => none

/-- The inside of a string up to its closing quote, and the rest after it.  A
surrogate is only read as the half of a pair. -/
def scanString (done : Text) : Text → Option (String × Text)
  | [] => none
  | '"' :: rest => some (String.ofList done.reverse, rest)
  | '\\' :: 'u' :: a :: b :: c :: d :: rest =>
    match hexValue4? a b c d with
    | none => none
    | some n =>
      if 0xD800 ≤ n ∧ n < 0xDC00 then
        match rest with
        | '\\' :: 'u' :: e :: f :: g :: h :: rest =>
          match hexValue4? e f g h with
          | none => none
          | some m =>
            if 0xDC00 ≤ m ∧ m < 0xE000 then
              scanString (Char.ofNat (0x10000 + (n - 0xD800) * 0x400 + (m - 0xDC00)) :: done) rest
            else none
        | _ => none
      else if 0xDC00 ≤ n ∧ n < 0xE000 then none
      else scanString (Char.ofNat n :: done) rest
  | '\\' :: c :: rest =>
    match letterEscape? c with
    | none => none
    | some c => scanString (c :: done) rest
  | c :: rest => if c.toNat < 0x20 then none else scanString (c :: done) rest

/-! ## Numbers -/

/-- The digits at the front and the rest. -/
def spanDigits (t : Text) : Text × Text := t.span fun c => '0' ≤ c && c ≤ '9'

/-- The number that digits stand for. -/
def digitsValue (digits : Text) : Nat :=
  digits.foldl (fun n c => 10 * n + (c.toNat - '0'.toNat)) 0

/-- An exponent part, if there is one: its value and the rest. -/
def scanExponent : Text → Option (Option Int × Text)
  | c :: rest =>
    if c = 'e' ∨ c = 'E' then
      let (negative, rest) := match rest with
        | '-' :: rest => (true, rest)
        | '+' :: rest => (false, rest)
        | rest => (false, rest)
      match spanDigits rest with
      | ([], _) => none
      | (digits, rest) =>
        let n : Int := digitsValue digits
        some (some (if negative then -n else n), rest)
    else some (none, c :: rest)
  | [] => some (none, [])

/-- A fraction part, if there is one: its digits and the rest. -/
def scanFraction : Text → Option (Option Text × Text)
  | '.' :: rest =>
    match spanDigits rest with
    | ([], _) => none
    | (digits, rest) => some (some digits, rest)
  | rest => some (none, rest)

/-- The value of a number from its parts.  An integer has 64 bits, and zero has no sign. -/
def ofNumberParts (negative : Bool) (whole : Text) (fraction : Option Text)
    (exponent : Option Int) : Json :=
  let n := digitsValue whole
  let fits := n < 0x10000000000000000 ∧ (negative → 0 < n ∧ n ≤ 0x8000000000000000)
  if fraction.isNone ∧ exponent.isNone ∧ fits then
    .integer (if negative then -(n : Int) else n)
  else
    let digits := fraction.getD []
    .decimal ⟨negative, digitsValue (whole ++ digits), exponent.getD 0 - digits.length⟩

/-- A number at the front, and the rest. -/
def scanNumber (t : Text) : Option (Json × Text) := do
  let (negative, t) := match t with
    | '-' :: t => (true, t)
    | t => (false, t)
  let (whole, t) := spanDigits t
  if whole = [] ∨ (1 < whole.length ∧ whole.head? = some '0') then none
  let (fraction, t) ← scanFraction t
  let (exponent, t) ← scanExponent t
  return (ofNumberParts negative whole fraction exponent, t)

/-! ## Values -/

/-- The rest after a word at the front. -/
def dropWord? (word : Text) (t : Text) : Option Text :=
  if word.isPrefixOf t then some (t.drop word.length) else none

mutual

/-- A value at the front, and the rest; `depth` bounds the recursion. -/
def scanValue (depth : Nat) (t : Text) : Option (Json × Text) :=
  match depth with
  | 0 => none
  | depth + 1 =>
    match skipBlanks t with
    | [] => none
    | '"' :: rest => (scanString [] rest).map fun (s, rest) => (.string s, rest)
    | '[' :: rest =>
      match skipBlanks rest with
      | ']' :: rest => some (.array [], rest)
      | _ => (scanItems depth rest).map fun (items, rest) => (.array items, rest)
    | '\x7b' :: rest =>
      match skipBlanks rest with
      | '\x7d' :: rest => some (.object [], rest)
      | _ => (scanMembers depth [] rest).map fun (members, rest) => (.object members, rest)
    | c :: rest =>
      if c = '-' ∨ ('0' ≤ c ∧ c ≤ '9') then scanNumber (c :: rest)
      else if c = 't' then (dropWord? "true".toList (c :: rest)).map fun rest => (.bool true, rest)
      else if c = 'f' then
        (dropWord? "false".toList (c :: rest)).map fun rest => (.bool false, rest)
      else (dropWord? "null".toList (c :: rest)).map fun rest => (.null, rest)

/-- Items up to the closing bracket, at least one. -/
def scanItems (depth : Nat) (t : Text) : Option (List Json × Text) :=
  match depth with
  | 0 => none
  | depth + 1 =>
    match scanValue depth t with
    | none => none
    | some (item, rest) =>
      match skipBlanks rest with
      | ',' :: rest => (scanItems depth rest).map fun (items, rest) => (item :: items, rest)
      | ']' :: rest => some ([item], rest)
      | _ => none

/-- Members up to the closing brace, at least one, added to those read before. -/
def scanMembers (depth : Nat) (before : List (String × Json)) (t : Text) :
    Option (List (String × Json) × Text) :=
  match depth with
  | 0 => none
  | depth + 1 =>
    match skipBlanks t with
    | '"' :: rest =>
      match scanString [] rest with
      | none => none
      | some (key, rest) =>
        match skipBlanks rest with
        | ':' :: rest =>
          match scanValue depth rest with
          | none => none
          | some (value, rest) =>
            let members := insertMember key value before
            match skipBlanks rest with
            | ',' :: rest => scanMembers depth members rest
            | '\x7d' :: rest => some (members, rest)
            | _ => none
        | _ => none
    | _ => none

end

/-- The value a text holds, with nothing but blanks around it. -/
def parse? (s : String) : Option Json :=
  let t := s.toList
  match scanValue (2 * t.length + 2) t with
  | some (j, rest) => if skipBlanks rest = [] then some j else none
  | none => none

end Kickstart.Json
