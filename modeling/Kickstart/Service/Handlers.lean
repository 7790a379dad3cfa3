/-
# Kickstart.Service.Handlers -- what the service does with each message

A handler first changes the state, at once, and then leaves works to be carried out
(`Service.receive`).  The handshake is answered once and for all: what the first one
finds out holds for the whole session.  Until it has come, and when there was no
validator then, nothing is stored and nothing is checked.

* Opening a document stores it and checks the buffer.
* Changing one applies the changes and checks the buffer if the settings say so.
* Saving one checks the file on disk if the settings say so, and otherwise clears
  what was published before.
* Closing one forgets it and its settings.
* Files that were made or changed on disk are checked; removed ones are not.
* A change of configuration checks every open buffer again.
-/
import Kickstart.Completion.Offer
import Kickstart.Service.Run

namespace Kickstart

set_option autoImplicit false

/-- What happened to a file on disk, as editors number it. -/
structure FileChange where
  uri : Uri
  kind : Int
  deriving Repr, DecidableEq, Inhabited

/-- The file was removed. -/
def FileChange.isRemoval (c : FileChange) : Bool := c.kind = 3

/-- A message about documents, files or configuration. -/
inductive Notice where
  | opened (document : Document)
  | changed (uri : Uri) (version : Int) (edits : List Edit)
  | saved (uri : Uri)
  | closed (uri : Uri)
  | filesChanged (changes : List FileChange)
  | configured (payload : Json)

namespace Service

/-- Before any handshake. -/
def start (files : Files) : Service := ⟨.empty, none, files⟩

/-- The handshake: the session is fixed by the first one.  The answer is what was found
out this time. -/
def handshake (s : Service) (validator : Validator) (features : Features) :
    Capabilities × List Event × Service :=
  let validating := validator.available
  let answer := Capabilities.of features validating
  match s.session with
  | some _ => (answer, [.warned .repeatedHandshake], s)
  | none =>
    let session : Session := ⟨features, validating, .start features.configuration⟩
    (answer, [], { s with session := some session })

/-- The session, if documents are checked in it. -/
def active? (s : Service) : Option Session := s.session.filter (·.validating)

/-- The immediate part of handling a notice: the state after it, what happened, and the
works it leaves. -/
def receive (s : Service) : Notice → Outcome
  | .opened d =>
    if s.active?.isSome then ⟨{ s with store := s.store.insert d }, [], [.copy d]⟩
    else ⟨s, [], []⟩
  | .changed u version edits =>
    if s.active?.isSome then
      match s.store.change? u edits version with
      | some (d, store) => ⟨{ s with store }, [], [.afterChange d]⟩
      | none => ⟨s, [.warned (.unknownDocument u)], []⟩
    else ⟨s, [], []⟩
  | .saved u => if s.active?.isSome then ⟨s, [], [.afterSave u]⟩ else ⟨s, [], []⟩
  | .closed u =>
    let session := s.session.map fun x => { x with settings := x.settings.forget u }
    ⟨{ s with store := s.store.erase u, session }, [], []⟩
  | .filesChanged changes =>
    if s.active?.isSome then
      ⟨s, [], (changes.filter fun c => !c.isRemoval).map fun c => .judgeFile c.uri⟩
    else ⟨s, [], []⟩
  | .configured payload =>
    match s.session with
    | none => ⟨s, [], []⟩
    | some session =>
      let (events, settings) := session.settings.configurationChanged payload
      let s := { s with session := some { session with settings } }
      ⟨s, events, if session.validating then s.store.documents.map .copy else []⟩

/-- Handles a notice up to a pause. -/
def handleUntil (sur : Surroundings) (pause : Work → Bool) (s : Service) (n : Notice) : Outcome :=
  let received := s.receive n
  let outcome := received.service.run sur pause received.left
  { outcome with events := received.events ++ outcome.events }

/-- Handles a notice to its end. -/
def handle (sur : Surroundings) (s : Service) (n : Notice) : Service × List Event :=
  let outcome := s.handleUntil sur Work.never n
  (outcome.service, outcome.events)

/-- The part of the cursor's line before the cursor: of the open buffer, else of the file
on disk, else of nothing.  The file is looked for under the URI's path, whatever its scheme. -/
def lineBefore? (s : Service) (u : Uri) (p : Position) : Option Text :=
  match s.store.get? u with
  | some d => d.linePrefix? p
  | none =>
    match u.localPath?.bind fun bytes => s.files.readText? ⟨bytes⟩ with
    | some text => Lines.linePrefix? text p
    | none => some []

/-- The offers at a position; none on a line that is not there. -/
def complete (s : Service) (u : Uri) (p : Position) : List Offer :=
  match s.lineBefore? u p with
  | some before => Offer.complete before
  | none => []

end Service

end Kickstart
