/-
# Kickstart.Server.Dispatch -- the language server

The server goes through phases: it waits for the handshake, is ready, was told to shut
down, is gone.  A message is first looked up by its method.  A request for a method
nobody knows is refused in every phase, and a notification of one is passed over.
Known methods, the handshake and the exit apart, are served when the server is ready:
before, requests are refused because the handshake is missing, and afterwards because
they make no sense any more; notifications are passed over.  A method that is a
notification may not be sent as a request, and a request sent without an id is passed
over.

What the service does while it handles a message (`Event`) becomes messages to the
editor, and the server numbers its own requests from zero.
-/
import Kickstart.Server.Encode
import Kickstart.Server.Message
import Kickstart.Server.Requests

namespace Kickstart

set_option autoImplicit false

namespace Server

/-- How far the conversation has come. -/
inductive Phase where
  | waiting
  | ready
  | ended
  | gone
  deriving Repr, DecidableEq

end Server

/-- A language server: its phase, its service, and how many requests it has made. -/
structure Server where
  phase : Server.Phase
  service : Service
  requests : Nat

namespace Server

/-- What the server depends on: what the service does, and the editor's refusal of
registrations, if it refuses them. -/
structure Client where
  surroundings : Surroundings
  registrationRefusal : Option String

/-- What comes of a message. -/
structure Reaction where
  server : Server
  response : Option Json
  sent : List Json
  warnings : List Warning

/-- A server that has heard nothing yet. -/
def start (files : Files) : Server := ⟨.waiting, .start files, 0⟩

/-- The name and version the server gives itself. -/
def info : Json := .ofMembers [("name", .string "kickstart-ls"), ("version", .string "0.3.0")]

/-! ## Messages to the editor -/

/-- Messages that events become, and the next free number. -/
def messagesOf (n : Nat) : List Event → List Json × Nat
  | [] => ([], n)
  | .published p :: rest =>
    let (later, m) := messagesOf n rest
    (notification "textDocument/publishDiagnostics" (ofPublication p) :: later, m)
  | .queried scope :: rest =>
    let item := Json.ofMembers
      [("scopeUri", ofUri scope), ("section", .string settingsSection)]
    let (later, m) := messagesOf (n + 1) rest
    (request n "workspace/configuration" (.ofMembers [("items", .array [item])]) :: later, m)
  | .ran _ :: rest => messagesOf n rest
  | .warned _ :: rest => messagesOf n rest

/-- A line for the editor's log. -/
def logLine (level : Nat) (text : String) : Json :=
  notification "window/logMessage"
    (.ofMembers [("type", .integer level), ("message", .string text)])

/-- The log line of a server that checks documents. -/
def validatingLine : Json :=
  logLine 3 "Kickstart files will be validated using `ksvalidator`."

/-- The log line of a server that has no validator. -/
def idleLine : Json := logLine 2 "Unable to find `ksvalidator`. Linting will be disabled."

/-! ## Methods -/

/-- What a method is. -/
inductive Method where
  /-- The handshake. -/
  | handshake
  /-- The editor has taken in the answer to the handshake. -/
  | settled
  /-- The end of the conversation. -/
  | shutdown
  /-- The server is to go. -/
  | exit
  /-- A notice the service handles. -/
  | notice (read : Json → Except Mismatch Notice)
  /-- The editor gives up a request of its own, which may be at any time. -/
  | cancel
  /-- A notification that changes nothing here. -/
  | idle
  /-- Completion. -/
  | completion
  /-- A request the server does not serve, with what its parameters have to be. -/
  | unserved (check : Check)
  /-- No method of the protocol. -/
  | unknown

/-- Notifications that change nothing here. -/
def idleMethods : List String :=
  ["textDocument/willSave", "workspace/didChangeWorkspaceFolders", "workspace/didCreateFiles",
   "workspace/didRenameFiles", "workspace/didDeleteFiles"]

/-- The method of a name. -/
def methodOf (name : String) : Method :=
  if name = "initialize" then .handshake
  else if name = "initialized" then .settled
  else if name = "shutdown" then .shutdown
  else if name = "exit" then .exit
  else if name = "$/cancelRequest" then .cancel
  else if name = "textDocument/completion" then .completion
  else
    match noticeReader? name, unserved.lookup name with
    | some read, _ => .notice read
    | none, some check => .unserved check
    | none, none => if name ∈ idleMethods then .idle else .unknown

/-! ## Handling -/

/-- Parameters that have to be there. -/
def readParams {α : Type} (read : Json → Except Mismatch α) : Option Json → Except Refusal α
  | none => .error .missingParams
  | some j => (read j).mapError .badParams

/-- No reaction. -/
def quiet (s : Server) : Reaction := ⟨s, none, [], []⟩

/-- An answer, if there is an id to send it to. -/
def reply (s : Server) (id : Option Json) (result : Except Refusal Json) : Reaction :=
  ⟨s, id.map fun id => answer id result, [], []⟩

/-- The handshake. -/
def handshake (client : Client) (s : Server) (m : Message) : Reaction :=
  match s.phase, m.id with
  | .waiting, none => s.quiet
  | .waiting, some _ =>
    match readParams readHandshake m.params with
    | .error refusal => s.reply m.id (.error refusal)
    | .ok features =>
      let (capabilities, events, service) :=
        s.service.handshake client.surroundings.validator features
      let result := Json.ofMembers
        [("capabilities", ofCapabilities capabilities), ("serverInfo", info)]
      { s.reply m.id (.ok result) with
        server := { s with phase := .ready, service }
        warnings := Event.warnings events }
  | _, id => s.reply id (.error .invalidRequest)

/-- The editor has taken in the answer to the handshake: it is told what to expect and
asked for what is wanted. -/
def settled (client : Client) (s : Server) : Reaction :=
  match s.service.session with
  | none => s.quiet
  | some session =>
    let (line, warnings) :=
      if session.validating then (validatingLine, []) else (idleLine, [Warning.validatorMissing])
    match Registration.wanted session.features session.validating with
    | [] => ⟨s, none, [line], warnings⟩
    | wanted =>
      let params := Json.ofMembers [("registrations", .array (wanted.map ofRegistration))]
      let refused := match client.registrationRefusal with
        | some text => [Warning.registrationRefused ("Internal error: " ++ text)]
        | none => []
      ⟨{ s with requests := s.requests + 1 }, none,
        [line, request s.requests "client/registerCapability" params], warnings ++ refused⟩

/-- A notice for the service. -/
def notify (client : Client) (s : Server) (n : Notice) : Reaction :=
  let (service, events) := s.service.handle client.surroundings n
  let (messages, requests) := messagesOf s.requests events
  ⟨{ s with service, requests }, none, messages, Event.warnings events⟩

/-- A message to a server that is ready. -/
def handleReady (client : Client) (s : Server) (m : Message) : Method → Reaction
  | .settled =>
    match m.id, readParams (Json.readRecord "InitializedParams" [] ()) m.params with
    | some id, _ => s.reply (some id) (.error .invalidRequest)
    | none, .ok () => s.settled client
    | none, .error _ => s.quiet
  | .notice read =>
    match m.id, readParams read m.params with
    | some id, _ => s.reply (some id) (.error .invalidRequest)
    | none, .ok n => s.notify client n
    | none, .error _ => s.quiet
  | .shutdown =>
    let s := { s with phase := .ended }
    match m.params with
    | some params => s.reply m.id (.error (.unexpectedParams params))
    | none => s.reply m.id (.ok .null)
  | .completion =>
    match readParams readCompletion m.params with
    | .error refusal => s.reply m.id (.error refusal)
    | .ok (uri, position) => s.reply m.id (.ok (ofOffers (s.service.complete uri position)))
  | .unserved check =>
    match readParams check m.params with
    | .error refusal => s.reply m.id (.error refusal)
    | .ok () => s.reply m.id (.error .notServed)
  | _ => s.reply m.id (.error .invalidRequest)

/-- Handles a message, unless the server is gone. -/
def handle (client : Client) (s : Server) (m : Message) : Reaction :=
  match methodOf m.method with
  | .exit => { s with phase := .gone }.quiet
  | .handshake => s.handshake client m
  | .cancel => s.reply m.id (.error .invalidRequest)
  | .unknown =>
    if "$/".isPrefixOf m.method then s.quiet else s.reply m.id (.error (.unknownMethod m.method))
  | method =>
    match s.phase with
    | .waiting => s.reply m.id (.error .notReady)
    | .ready => s.handleReady client m method
    | _ => s.reply m.id (.error .invalidRequest)

/-! ## A conversation -/

/-- What a server sends for a message of any kind, and the server after it.  Answers to
its own requests are passed over.  What is no request either is refused, and the server
listens no more. -/
def receive (client : Client) (s : Server) (j : Json) : List Json × Server :=
  if isAnswer j then ([], s)
  else
    match readMessage j with
    | .error _ => ([answer .null (.error .invalidRequest)], { s with phase := .gone })
    | .ok m =>
      let r := s.handle client m
      (r.sent ++ r.response.toList, r.server)

/-- The editor's answer to the server's request of that number, among the messages that
follow; no value if there is none. -/
def answerTo (n : Nat) (later : List Json) : Reply :=
  match later.find? fun j => isAnswer j && (j.get "id").nat? = some n with
  | none => .ok none
  | some j =>
    match j.member? "error" with
    | some error => .error (((error.get "message").string?).getD "")
    | none => .ok (((j.get "result").items?.getD []).head?)

/-- The server's surroundings while it handles a message that others follow.  Handling
one makes at most one request that is waited for. -/
def listening (client : Client) (s : Server) (later : List Json) : Client :=
  { client with
    surroundings := { client.surroundings with ask := fun _ => answerTo s.requests later } }

/-- The frames a server sends for messages that come one after the other, each handled
to its end. -/
def converse (client : Client) (s : Server) : List Json → List Json
  | [] => []
  | j :: rest =>
    if s.phase = .gone then []
    else
      let (sent, s) := s.receive (listening client s rest) j
      sent ++ converse client s rest

end Server

end Kickstart
