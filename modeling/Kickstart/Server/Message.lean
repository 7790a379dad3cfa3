/-
# Kickstart.Server.Message -- messages between editor and server

A message is a request, which has an id and is answered, or a notification, which has
none and is not.  Its parameters are kept as they came; `null` is a value like any
other, and an id may be `null` too.  Answers carry a result or an error with a code.
-/
import Kickstart.Json.Printer
import Kickstart.Json.Record

namespace Kickstart.Server

set_option autoImplicit false

open Json

/-- A message from the editor. -/
structure Message where
  method : String
  params : Option Json
  id : Option Json
  deriving Inhabited

/-- The version every message names. -/
def readVersion (j : Json) : Except Mismatch Unit :=
  match readString j with
  | .error e => .error e
  | .ok s => if s = "2.0" then .ok () else .error .wrongProtocol

/-- An id: an integer of 64 bits, a string or `null`. -/
def readId : Json → Except Mismatch Json
  | .integer n =>
    if -0x8000000000000000 ≤ n ∧ n < 0x8000000000000000 then .ok (.integer n)
    else .error (.noForm "Id")
  | .string s => .ok (.string s)
  | .null => .ok .null
  | _ => .error (.noForm "Id")

/-- A message. -/
def readMessage : Json → Except Mismatch Message :=
  readRecord "Request"
    [.of "jsonrpc" .required readVersion fun m _ => m,
     .of "method" .defaulted readString fun m s => { m with method := s },
     .of "params" .defaulted .ok fun m j => { m with params := some j },
     .of "id" .defaulted readId fun m j => { m with id := some j }]
    ⟨"", none, none⟩

/-- The members that an error on the wire may have. -/
def errorMembers : List String := ["code", "message", "data"]

/-- An error on the wire: a code of 64 bits, a message, and perhaps more data, nothing
else. -/
def readError (j : Json) : Except Mismatch Unit := do
  readRecord "Error"
    [.of "code" .required (readBounded "i64" (-0x8000000000000000) 0x7FFFFFFFFFFFFFFF) fun u _ => u,
     .of "message" .required readString fun u _ => u,
     .of "data" .optional .ok fun u _ => u]
    () j
  if ((j.members?).getD []).any fun (name, _) => !errorMembers.contains name then
    throw (.noForm "Error")

/-- The value is an answer: an object with the version and an id, and with a result or an
error.  A method besides these does not make it a request. -/
def isAnswer (j : Json) : Bool :=
  let accepts {α : Type} (name : String) (read : Json → Except Mismatch α) : Bool :=
    (j.member? name).any fun value => (read value).toOption.isSome
  accepts "jsonrpc" readVersion && accepts "id" readId &&
    ((j.member? "result").isSome || accepts "error" readError)

/-- Why a request is refused. -/
inductive Refusal where
  /-- The text is no JSON. -/
  | unreadable
  /-- The handshake has not come yet. -/
  | notReady
  /-- The request makes no sense now. -/
  | invalidRequest
  /-- There is no such method. -/
  | unknownMethod (name : String)
  /-- The method is known but not served. -/
  | notServed
  /-- The parameters are missing. -/
  | missingParams
  /-- The parameters are malformed. -/
  | badParams (mismatch : Mismatch)
  /-- There should be no parameters. -/
  | unexpectedParams (params : Json)

namespace Refusal

/-- The code of a refusal. -/
def code : Refusal → Int
  | .unreadable => -32700
  | .notReady => -32002
  | .invalidRequest => -32600
  | .unknownMethod _ => -32601
  | .notServed => -32601
  | .missingParams => -32602
  | .badParams _ => -32602
  | .unexpectedParams _ => -32602

/-- The wording of a refusal. -/
def message : Refusal → String
  | .unreadable => "Parse error"
  | .notReady => "Server not initialized"
  | .invalidRequest => "Invalid request"
  | .unknownMethod _ => "Method not found"
  | .notServed => "Method not found"
  | .missingParams => "Missing params field"
  | .badParams mismatch => mismatch.message
  | .unexpectedParams params => "Unexpected params: " ++ params.render

/-- What a refusal carries along. -/
def data? : Refusal → Option Json
  | .unknownMethod name => some (.string name)
  | _ => none

/-- A refusal on the wire. -/
def json (r : Refusal) : Json :=
  .ofMembers
    ([("code", .integer r.code), ("message", .string r.message)] ++
      (match r.data? with
        | some data => [("data", data)]
        | none => []))

end Refusal

/-- The member every message starts with. -/
def versionMember : String × Json := ("jsonrpc", .string "2.0")

/-- The answer to a request. -/
def answer (id : Json) : Except Refusal Json → Json
  | .ok result => .ofMembers [versionMember, ("id", id), ("result", result)]
  | .error refusal => .ofMembers [versionMember, ("id", id), ("error", refusal.json)]

/-- A notification to the editor. -/
def notification (method : String) (params : Json) : Json :=
  .ofMembers [versionMember, ("method", .string method), ("params", params)]

/-- A request to the editor. -/
def request (id : Nat) (method : String) (params : Json) : Json :=
  .ofMembers
    [versionMember, ("id", .integer id), ("method", .string method), ("params", params)]

end Kickstart.Server
