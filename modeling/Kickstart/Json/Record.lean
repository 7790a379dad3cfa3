/-
# Kickstart.Json.Record -- reading records out of JSON

A record is read from an object, each field from the member of its name, or from an
array, the fields from its items in the order in which the record declares them.
Members that are no field are ignored.  The first problem met is the one reported
(`Mismatch`):

* of an object, the members are looked at in byte order of their names, and only
  then is a required field that has no member noticed, in declared order;
* of an array, the items are looked at in order; an array that ends too early is
  noticed at the first field that may not be left out, one that is too long after
  all fields were accepted.

A record may also be put together from parts (`readComposite`): its own fields and
fields that it shares with other records, all of them members of one object.  Own fields
come first, then part after part, each as if it were a record of its own.

A `RecordField` says how a value changes a record, so a record is read by filling in a
blank one.
-/
import Kickstart.Json.Value
import Kickstart.Text.Quoted
import Kickstart.Uri.Parser

namespace Kickstart

set_option autoImplicit false

/-- How a JSON value fails to be what was expected. -/
inductive Mismatch where
  /-- A value of another type. -/
  | wrongType (found : Json) (expected : String)
  /-- An integer outside the range of its type. -/
  | outOfRange (n : Int) (expected : String)
  /-- A required member is not there. -/
  | missing (field : String)
  /-- An array that ends at a field that may not be left out. -/
  | tooShort (index : Nat) (record : String) (fields : Nat)
  /-- An array with more items than the record has fields. -/
  | tooLong (length fields : Nat)
  /-- The same, inside a part of a composite record. -/
  | tooLongInPart (length fields : Nat)
  /-- A word that is none of those there are. -/
  | unknownWord (word : String) (known : List String)
  /-- An object where a word is expected that holds not exactly one member. -/
  | notOneMember
  /-- A string that is no URI. -/
  | badUri (fault : Uri.Fault) (text : String)
  /-- A value that fits none of the forms of a type. -/
  | noForm (type : String)
  /-- A message of another protocol version. -/
  | wrongProtocol
  deriving Repr

namespace Mismatch

/-- A text between quotes. -/
def quoted (s : String) : String := String.ofList (Text.quote s.toList)

/-- What a value is, in the words of a mismatch. -/
def describe : Json → String
  | .null => "null"
  | .bool b => "boolean `" ++ (if b then "true" else "false") ++ "`"
  | .integer n => "integer `" ++ toString n ++ "`"
  | .decimal d => "floating point `" ++ String.ofList d.render ++ "`"
  | .string s => "string " ++ quoted s
  | .array _ => "sequence"
  | .object _ => "map"

/-- A count of elements. -/
def elements (n : Nat) : String := toString n ++ (if n = 1 then " element" else " elements")

/-- What could have been there instead. -/
def alternatives (known : List String) : String :=
  match known.map fun word => "`" ++ word ++ "`" with
  | [] => "there are no variants"
  | [one] => one
  | [one, other] => one ++ " or " ++ other
  | many => "one of " ++ String.intercalate ", " many

/-- The wording of a mismatch. -/
def message : Mismatch → String
  | .wrongType found expected => "invalid type: " ++ describe found ++ ", expected " ++ expected
  | .outOfRange n expected => "invalid value: integer `" ++ toString n ++ "`, expected " ++ expected
  | .missing field => "missing field `" ++ field ++ "`"
  | .tooShort index record fields =>
    "invalid length " ++ toString index ++ ", expected struct " ++ record ++ " with " ++
      elements fields
  | .tooLong length _ =>
    "invalid length " ++ toString length ++ ", expected fewer elements in array"
  | .tooLongInPart length fields =>
    "invalid length " ++ toString length ++ ", expected " ++ elements fields ++ " in sequence"
  | .unknownWord word known =>
    "unknown variant `" ++ word ++ "`, expected " ++ alternatives known
  | .notOneMember => "invalid value: map, expected map with a single key"
  | .badUri fault text => fault.message ++ ": " ++ quoted text
  | .noForm type => "data did not match any variant of untagged enum " ++ type
  | .wrongProtocol => "expected JSON-RPC version \"2.0\""

/-- A mismatch met inside a part of a composite record. -/
def inPart : Mismatch → Mismatch
  | .tooLong length fields => .tooLongInPart length fields
  | mismatch => mismatch

end Mismatch

namespace Json

/-! ## Single values -/

/-- A boolean. -/
def readBool : Json → Except Mismatch Bool
  | .bool b => .ok b
  | j => .error (.wrongType j "a boolean")

/-- A string. -/
def readString : Json → Except Mismatch String
  | .string s => .ok s
  | j => .error (.wrongType j "a string")

/-- An integer between bounds, called by the name of its type. -/
def readBounded (type : String) (low high : Int) : Json → Except Mismatch Int
  | .integer n => if low ≤ n ∧ n ≤ high then .ok n else .error (.outOfRange n type)
  | j => .error (.wrongType j type)

/-- A natural number of 32 bits. -/
def readNat32 (j : Json) : Except Mismatch Nat :=
  (readBounded "u32" 0 0xFFFFFFFF j).map Int.toNat

/-- An integer of 32 bits. -/
def readInt32 : Json → Except Mismatch Int := readBounded "i32" (-0x80000000) 0x7FFFFFFF

/-- A list of values of one kind. -/
def readList {α : Type} (read : Json → Except Mismatch α) : Json → Except Mismatch (List α)
  | .array items => items.mapM read
  | j => .error (.wrongType j "a sequence")

/-- A value that may be `null`. -/
def readOptional {α : Type} (read : Json → Except Mismatch α) : Json → Except Mismatch (Option α)
  | .null => .ok none
  | j => (read j).map some

/-- A URI. -/
def readUri : Json → Except Mismatch Uri
  | .string s =>
    match Uri.parse s with
    | .ok uri => .ok uri
    | .error fault => .error (.badUri fault s)
  | j => .error (.wrongType j "a string representing an URL")

/-- A value of the first form that fits, of a type that has several. -/
def readForms {α : Type} (type : String) (forms : List (Json → Except Mismatch α)) (j : Json) :
    Except Mismatch α :=
  match forms.findSome? fun read => (read j).toOption with
  | some a => .ok a
  | none => .error (.noForm type)

/-- One of some words: as a string, or as the name of the one member of an object, whose
value is then `null`. -/
def readWord (known : List String) (j : Json) : Except Mismatch String :=
  let check (word : String) : Except Mismatch String :=
    if known.contains word then .ok word else .error (.unknownWord word known)
  match j with
  | .string word => check word
  | .object [(word, value)] =>
    match check word, value with
    | .ok word, .null => .ok word
    | .ok _, value => .error (.wrongType value "unit")
    | .error e, _ => .error e
  | .object _ => .error .notOneMember
  | j => .error (.wrongType j "string or map")

/-! ## Records -/

/-- Whether a field may be left out. -/
inductive Presence where
  /-- It has to be there. -/
  | required
  /-- An object may leave it out. -/
  | optional
  /-- An object may leave it out, and an array may end before it. -/
  | defaulted
  deriving Repr, DecidableEq

/-- A field of a record: what its value does to the record. -/
structure RecordField (σ : Type) where
  name : String
  presence : Presence
  set : Json → σ → Except Mismatch σ

variable {σ : Type}

/-- A field whose value is read and then stored. -/
def RecordField.of {α : Type} (name : String) (presence : Presence)
    (read : Json → Except Mismatch α) (store : σ → α → σ) : RecordField σ :=
  ⟨name, presence, fun j r => (read j).map (store r)⟩

/-- A field put in its place by name. -/
def insertByName (f : RecordField σ) : List (RecordField σ) → List (RecordField σ)
  | [] => [f]
  | g :: rest => if f.name < g.name then f :: g :: rest else g :: insertByName f rest

/-- Fields in byte order of their names. -/
def byName (fields : List (RecordField σ)) : List (RecordField σ) := fields.foldr insertByName []

/-- Fills a record from the members of an object. -/
def fillFromMembers (members : List (String × Json)) : List (RecordField σ) → σ → Except Mismatch σ
  | [], r => .ok r
  | f :: rest, r =>
    match members.lookup f.name with
    | none => fillFromMembers members rest r
    | some j =>
      match f.set j r with
      | .error e => .error e
      | .ok r => fillFromMembers members rest r

/-- Fills a record from the items of an array; `index` counts the fields so far, and
`total` all items. -/
def fillFromItems (record : String) (count total index : Nat) :
    List (RecordField σ) → List Json → σ → Except Mismatch σ
  | [], [], r => .ok r
  | [], _ :: _, _ => .error (.tooLong total count)
  | f :: rest, [], r =>
    if f.presence = .defaulted then fillFromItems record count total (index + 1) rest [] r
    else .error (.tooShort index record count)
  | f :: rest, j :: items, r =>
    match f.set j r with
    | .error e => .error e
    | .ok r => fillFromItems record count total (index + 1) rest items r

/-- The first required field that an object has no member for. -/
def missing? (members : List (String × Json)) (fields : List (RecordField σ)) : Option String :=
  (fields.find? fun f => f.presence = .required && (members.lookup f.name).isNone).map (·.name)

/-- Fills a record from the members of an object and looks for what is missing. -/
def fillFromObject (members : List (String × Json)) (fields : List (RecordField σ)) (r : σ) :
    Except Mismatch σ :=
  match fillFromMembers members (byName fields) r with
  | .error e => .error e
  | .ok r =>
    match missing? members fields with
    | some name => .error (.missing name)
    | none => .ok r

/-- A record of that name with those fields, in declared order, read into a blank. -/
def readRecord (record : String) (fields : List (RecordField σ)) (blank : σ) :
    Json → Except Mismatch σ
  | .object members => fillFromObject members fields blank
  | .array items => fillFromItems record fields.length items.length 0 fields items blank
  | j => .error (.wrongType j ("struct " ++ record))

/-- A record of own fields and of parts, read from an object only. -/
def readComposite (record : String) (own : List (RecordField σ))
    (parts : List (List (RecordField σ))) (blank : σ) : Json → Except Mismatch σ
  | .object members => do
    let r ← fillFromObject members own blank
    parts.foldlM (fun r part => (fillFromObject members part r).mapError Mismatch.inPart) r
  | j => .error (.wrongType j ("struct " ++ record))

end Json

end Kickstart
