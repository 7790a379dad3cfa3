/-
# Kickstart.Proofs.Service.Scene -- many handlers under way at once

A scene holds the service, every handler at the point where it waits, and a log of all
that the handlers did.  A step is one handler going on by itself: a notice comes in, a
change of configuration looks at the open documents, or the first work of a handler
advances.  Steps come in any order and each has surroundings of its own, so that answers,
failures and validators may differ from step to step; others may change files and send
handshakes in between.

A new workspace may get any name that is free (`Work.advance`).  What is granted is that
nobody touches a workspace but the validation that holds it (`Scene.Respects`, and the
condition of `Step.outside`): a run on a copy does not remove its directory, and whatever
others do leaves the way to the input file as it was.
-/
import Kickstart.Proofs.Files.Scratch
import Kickstart.Proofs.Service.Operations

namespace Kickstart

set_option autoImplicit false

open Files Scratch

/-! ## Works and their steps -/

/-- Makes a workspace with a name that is free, from any name on. -/
def Surroundings.createFrom (sur : Surroundings) (seed : Nat) (fs : Files) :
    Except IoFault (Scratch × Files) :=
  match sur.hindrances.create with
  | some e => .error (.system e)
  | none => Scratch.create fs sur.temporary seed

theorem Surroundings.createFrom_eq_ok {sur : Surroundings} {seed : Nat} {fs : Files}
    {made : Scratch × Files} (created : sur.createFrom seed fs = .ok made) :
    Scratch.create fs sur.temporary seed = .ok made := by
  unfold createFrom at created
  split at created
  · cases created
  · exact created

namespace Work

/-- A step, with any free name for a workspace that is made. -/
def advance (sur : Surroundings) (seed : Nat) (s : Service) : Work → Progress
  | .copy d =>
    if d.uri.isFile then
      match sur.createFrom seed s.files with
      | .ok (workspace, files) => ⟨{ s with files }, [], some (.fill d workspace)⟩
      | .error fault => conclude s d.uri (some d.version) (.error (.io fault))
    else conclude s d.uri (some d.version) (.ok none)
  | w => step sur s w

/-- The steps of works are among them. -/
theorem advance_zero (sur : Surroundings) (s : Service) (w : Work) :
    w.advance sur 0 s = step sur s w := by
  cases w <;> rfl

/-- The workspace that a work holds. -/
def workspace? : Work → Option Scratch
  | .fill _ w => some w
  | .judge _ w => some w
  | .settle _ w _ => some w
  | .tidy _ w _ => some w
  | _ => none

/-- The buffer that a work is about. -/
def document? : Work → Option Document
  | .afterChange d => some d
  | .copy d => some d
  | .fill d _ => some d
  | .judge d _ => some d
  | .settle d _ _ => some d
  | .tidy d _ _ => some d
  | _ => none

end Work

/-! ## Handlers at once -/

/-- How far a handler has come. -/
inductive Handler where
  /-- The configuration was changed; the open documents are not looked at yet. -/
  | surveying
  /-- Works are left. -/
  | working (works : List Work)

/-- The works that are left to a handler. -/
def Handler.works : Handler → List Work
  | .surveying => []
  | .working works => works

/-- What a handler does at one moment. -/
inductive Deed where
  /-- A notice comes: the store is changed and copies of documents are taken. -/
  | receive (n : Notice)
  /-- Copies of all open documents are taken. -/
  | survey
  /-- A work goes one step further. -/
  | step (w : Work)

/-- One moment of a handler, with the service after it. -/
structure Moment where
  handler : Nat
  deed : Deed
  surroundings : Surroundings
  service : Service
  events : List Event

/-- Any number of handlers, each at its own point, and all that has happened. -/
structure Scene where
  service : Service
  handlers : List Handler
  log : List Moment

namespace Scene

/-- Nothing has happened. -/
def start (files : Files) : Scene := ⟨.start files, [], []⟩

/-- The works that are left to all handlers. -/
def works (sc : Scene) : List Work := sc.handlers.flatMap Handler.works

/-- The workspaces that are held. -/
def workspaces (sc : Scene) : List Scratch := sc.works.filterMap Work.workspace?

/-- What a notice leaves its handler to do. -/
def begin (received : Outcome) : Notice → Handler
  | .configured _ => .surveying
  | _ => .working received.left

/-- The works that a look at all open documents leaves. -/
def survey (s : Service) : List Work :=
  if s.active?.isSome then s.store.documents.map .copy else []

/-- The files on the way to a workspace's input are as they were. -/
def Spared (fs fs' : Files) (w : Scratch) : Prop := ∀ q, q <+: w.inputPlace → fs'.get? q = fs.get? q

/-- The step of a work touches no workspace but its own: a run on a copy does not remove
the directory, and a run on a file leaves the workspaces that are held alone. -/
def Respects (sc : Scene) (x : Work) (after : Service) : Prop :=
  match x with
  | .settle _ _ conduct => conduct.removesDirectory = false
  | .settleFile .. => ∀ w ∈ sc.workspaces, Spared sc.service.files after.files w
  | _ => True

/-- The scene after a handler has taken a step with its first work. -/
def afterWork (sc : Scene) (sur : Surroundings) (seed h : Nat) (x : Work) (rest : List Work) :
    Scene :=
  let progress := x.advance sur seed sc.service
  ⟨progress.service, sc.handlers.set h (.working (progress.next.toList ++ rest)),
    sc.log ++ [⟨h, .step x, sur, progress.service, progress.events⟩]⟩

/-- One step of one handler, a handshake, or a change that others make to the files. -/
inductive Step (temporary : Path) : Scene → Scene → Prop
  | handshake (sc : Scene) (validator : Validator) (features : Features) :
      Step temporary sc { sc with service := (sc.service.handshake validator features).2.2 }
  | receive (sc : Scene) (sur : Surroundings) (n : Notice) :
      Step temporary sc
        ⟨(sc.service.receive n).service, sc.handlers ++ [begin (sc.service.receive n) n],
          sc.log ++ [⟨sc.handlers.length, .receive n, sur, (sc.service.receive n).service,
            (sc.service.receive n).events⟩]⟩
  | survey (sc : Scene) (sur : Surroundings) (h : Nat) (waits : sc.handlers[h]? = some .surveying) :
      Step temporary sc
        ⟨sc.service, sc.handlers.set h (.working (survey sc.service)),
          sc.log ++ [⟨h, .survey, sur, sc.service, []⟩]⟩
  | work (sc : Scene) (sur : Surroundings) (seed h : Nat) (x : Work) (rest : List Work)
      (waits : sc.handlers[h]? = some (.working (x :: rest)))
      (same : sur.temporary = temporary)
      (respects : sc.Respects x (x.advance sur seed sc.service).service) :
      Step temporary sc (sc.afterWork sur seed h x rest)
  | outside (sc : Scene) (files : Files) (here : files.here = sc.service.files.here)
      (spared : ∀ w ∈ sc.workspaces, Spared sc.service.files files w) :
      Step temporary sc { sc with service := { sc.service with files } }

/-- Steps in any order. -/
inductive Reached (temporary : Path) (files : Files) : Scene → Prop
  | start : Reached temporary files (start files)
  | step {sc next : Scene} (before : Reached temporary files sc) (step : Step temporary sc next) :
      Reached temporary files next

/-- Looking at the open documents at once is what handling does. -/
theorem survey_receive (s : Service) (payload : Json) :
    survey (s.receive (.configured payload)).service = (s.receive (.configured payload)).left := by
  unfold survey
  rw [Service.active?_isSome]
  simp only [Service.receive]
  cases shaken : s.session with
  | none => simp [shaken]
  | some session => simp

end Scene

end Kickstart
