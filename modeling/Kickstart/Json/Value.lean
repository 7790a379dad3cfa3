/-
# Kickstart.Json.Value -- JSON values

A JSON value as messages carry it.  A number without fraction and exponent that
fits into 64 bits is an `integer`; any other is kept as the decimal it was written
as, and stands for the binary64 next to it (`Decimal.binary64`).

Objects keep their members in the order of a list; `insertMember` keeps the keys
ascending and lets the last of two equal keys win, and every object that this
library reads or builds is made with it.  Nothing depends on the order: members
are looked up by name (`Json.member?`).
-/
import Kickstart.Decimal.Shortest

namespace Kickstart

set_option autoImplicit false

/-- A decimal number as written, `± significand · 10 ^ exponent`. -/
structure Decimal where
  negative : Bool
  significand : Nat
  exponent : Int
  deriving Repr, DecidableEq

namespace Decimal

/-- The power of ten, kept within bounds beyond which every number of that many digits
overflows or vanishes. -/
def boundedExponent (d : Decimal) : Int :=
  let digits : Int := (Nat.toDigits 10 d.significand).length
  max (-(400 + digits)) (min 400 d.exponent)

/-- The binary64 nearest to the decimal's magnitude. -/
def binary64 (d : Decimal) : Binary64 :=
  let exponent := d.boundedExponent
  .ofRatio (d.significand * Nat.pow 10 exponent.toNat) (Nat.pow 10 (-exponent).toNat)

/-- The shortest text of the binary64 that the decimal stands for. -/
def render (d : Decimal) : Text :=
  if d.negative then '-' :: d.binary64.render else d.binary64.render

end Decimal

/-- A JSON value. -/
inductive Json where
  | null
  | bool (b : Bool)
  | integer (n : Int)
  | decimal (d : Decimal)
  | string (s : String)
  | array (items : List Json)
  | object (members : List (String × Json))
  deriving Repr, Inhabited

namespace Json

/-- Members with one more, keys ascending; an equal key is replaced. -/
def insertMember (key : String) (value : Json) : List (String × Json) → List (String × Json)
  | [] => [(key, value)]
  | (k, v) :: rest =>
    if key < k then (key, value) :: (k, v) :: rest
    else if key = k then (key, value) :: rest
    else (k, v) :: insertMember key value rest

/-- The object with these members, the last of equal keys winning. -/
def ofMembers (members : List (String × Json)) : Json :=
  .object (members.foldl (fun all m => insertMember m.1 m.2 all) [])

/-- The member of that name, of an object that has one. -/
def member? (name : String) : Json → Option Json
  | .object members => members.lookup name
  | _ => none

/-- The member of that name, `null` where there is none. -/
def get (name : String) (j : Json) : Json := (j.member? name).getD .null

/-- The text of a string value. -/
def string? : Json → Option String
  | .string s => some s
  | _ => none

/-- The truth value of a boolean. -/
def bool? : Json → Option Bool
  | .bool b => some b
  | _ => none

/-- The items of an array. -/
def items? : Json → Option (List Json)
  | .array items => some items
  | _ => none

/-- The value of an integer that is not negative. -/
def nat? : Json → Option Nat
  | .integer n => if 0 ≤ n then some n.toNat else none
  | _ => none

/-- The value of an integer. -/
def integer? : Json → Option Int
  | .integer n => some n
  | _ => none

/-- The members of an object. -/
def members? : Json → Option (List (String × Json))
  | .object members => some members
  | _ => none

end Json

end Kickstart
