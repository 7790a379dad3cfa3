/-
# Kickstart.Service.Work -- validations, step by step

Handling a message leaves work behind that waits for others: for the editor's
settings, the disk, the validator.  A `Work` is such a piece of work at the point
where it waits, with all it needs to go on; `Work.step` takes it one step further
against the state of the moment.  Several handlers may be under way, and their steps
may come in any order: that is why a work holds its own copy of the document it is
about.

A buffer is checked in these steps: make a scratch workspace, write the buffer to it,
run the validator, let the run end, remove the workspace, publish.  A file on disk is
checked by running the validator and publishing.  Whatever fails, exactly one
publication follows, and it is empty.
-/
import Kickstart.Document.Store
import Kickstart.Report.Parser
import Kickstart.Scratch
import Kickstart.Session.Capabilities
import Kickstart.Settings.Resolver
import Kickstart.Validator.Basic

namespace Kickstart

set_option autoImplicit false

/-- What the handshake fixed. -/
structure Session where
  features : Features
  /-- There is a validator to check with. -/
  validating : Bool
  settings : Resolver

/-- The state of the service, with the files it works on. -/
structure Service where
  store : Store
  session : Option Session
  files : Files

/-- What the system refuses for reasons that files do not show, such as a full disk. -/
structure Hindrances where
  /-- Workspaces cannot be made. -/
  create : Option SystemError
  /-- Buffers cannot be written. -/
  write : Option SystemError
  /-- Workspaces cannot be removed. -/
  close : Option SystemError
  deriving Repr, DecidableEq

/-- Nothing is refused. -/
def Hindrances.none : Hindrances := ⟨.none, .none, .none⟩

/-- What the service depends on and does not change. -/
structure Surroundings where
  validator : Validator
  /-- The editor's answer to a settings query. -/
  ask : Uri → Reply
  /-- The directory under which scratch workspaces are made. -/
  temporary : Path
  hindrances : Hindrances

namespace Surroundings

/-- Makes a workspace. -/
def create (sur : Surroundings) (fs : Files) : Except IoFault (Scratch × Files) :=
  match sur.hindrances.create with
  | some e => .error (.system e)
  | none => Scratch.create fs sur.temporary 0

/-- Writes a buffer to a workspace. -/
def write (sur : Surroundings) (fs : Files) (workspace : Scratch) (text : Text) :
    Except IoFault Files :=
  match sur.hindrances.write with
  | some e => .error (.system e)
  | none => Scratch.writeInput fs workspace text

/-- Closes a workspace. -/
def close (sur : Surroundings) (fs : Files) (workspace : Scratch) : Except IoFault Files :=
  match sur.hindrances.close with
  | some e => .error (.systemAt e (Place.text workspace.place))
  | none => Scratch.close fs workspace

end Surroundings

/-- A piece of work at the point where it waits. -/
inductive Work where
  /-- A document was changed: check it if the settings say so. -/
  | afterChange (document : Document)
  /-- A document was saved: check its file if the settings say so. -/
  | afterSave (uri : Uri)
  /-- Check a buffer: make a workspace. -/
  | copy (document : Document)
  /-- Write the buffer to its workspace. -/
  | fill (document : Document) (workspace : Scratch)
  /-- Run the validator on the copy. -/
  | judge (document : Document) (workspace : Scratch)
  /-- The run on the copy ends. -/
  | settle (document : Document) (workspace : Scratch) (conduct : Conduct)
  /-- Remove the workspace. -/
  | tidy (document : Document) (workspace : Scratch) (verdict : Verdict)
  /-- Check a file on disk. -/
  | judgeFile (uri : Uri)
  /-- The run on the file ends. -/
  | settleFile (uri : Uri) (path : Path) (conduct : Conduct)
  /-- Publish. -/
  | publish (publication : Publication)

/-- One step: the state after it, what happened, and the work that is left. -/
structure Progress where
  service : Service
  events : List Event
  next : Option Work

namespace Work

/-- How many steps the work takes at most. -/
def rank : Work → Nat
  | .afterChange _ => 7
  | .afterSave _ => 4
  | .copy _ => 6
  | .fill .. => 5
  | .judge .. => 4
  | .settle .. => 3
  | .tidy .. => 2
  | .judgeFile _ => 3
  | .settleFile .. => 2
  | .publish _ => 1

/-- The run of a validator is under way. -/
def isRunning : Work → Bool
  | .settle .. => true
  | .settleFile .. => true
  | _ => false

/-- The document that diagnostics of a URI point back at. -/
def relatedTo (s : Service) (u : Uri) : Option Uri :=
  match s.session with
  | some session => if session.features.relatedInformation then some u else none
  | none => none

/-- Publishes what a verdict means for a document. -/
def conclude (s : Service) (u : Uri) (version : Option Int) : Verdict → Progress
  | .ok none => ⟨s, [], some (.publish ⟨u, [], version⟩)⟩
  | .ok (some report) =>
    ⟨s, [], some (.publish ⟨u, Report.diagnostics report (relatedTo s u), version⟩)⟩
  | .error failure =>
    ⟨s, [.warned (.validationFailed u failure)], some (.publish ⟨u, [], version⟩)⟩

/-- The settings of a document, and the state after learning them. -/
def learnSettings (sur : Surroundings) (u : Uri) (s : Service) :
    Settings × List Event × Service :=
  match s.session with
  | none => (.default, [], s)
  | some session =>
    let (settings, events, resolver) := session.settings.resolve sur.ask u
    (settings, events, { s with session := some { session with settings := resolver } })

/-- One step of a piece of work. -/
def step (sur : Surroundings) (s : Service) : Work → Progress
  | .afterChange d =>
    let (settings, events, s) := learnSettings sur d.uri s
    ⟨s, events, if settings.lintOnChange then some (.copy d) else none⟩
  | .afterSave u =>
    let (settings, events, s) := learnSettings sur u s
    ⟨s, events, some (if settings.lintOnSave then .judgeFile u else .publish ⟨u, [], none⟩)⟩
  | .copy d =>
    if d.uri.isFile then
      match sur.create s.files with
      | .ok (workspace, files) => ⟨{ s with files }, [], some (.fill d workspace)⟩
      | .error fault => conclude s d.uri (some d.version) (.error (.io fault))
    else conclude s d.uri (some d.version) (.ok none)
  | .fill d workspace =>
    match sur.write s.files workspace d.text with
    | .ok files => ⟨{ s with files }, [], some (.judge d workspace)⟩
    | .error fault =>
      conclude { s with files := Scratch.drop s.files workspace } d.uri (some d.version)
        (.error (.io fault))
  | .judge d workspace =>
    let path := workspace.inputPath
    ⟨s, [.ran (Validator.recordOf s.files path)],
      some (.settle d workspace (sur.validator.judge (Validator.seen s.files path)))⟩
  | .settle d workspace conduct =>
    ⟨{ s with files := Validator.settle s.files workspace.inputPath conduct }, [],
      some (.tidy d workspace conduct.verdict)⟩
  | .tidy d workspace verdict =>
    match sur.close s.files workspace with
    | .ok files => conclude { s with files } d.uri (some d.version) verdict
    | .error fault => conclude s d.uri (some d.version) (.error (.io fault))
  | .judgeFile u =>
    if u.isFile then
      match u.filePath? with
      | none => conclude s u none (.error (.notLocal u))
      | some bytes =>
        let path : Path := ⟨bytes⟩
        ⟨s, [.ran (Validator.recordOf s.files path)],
          some (.settleFile u path (sur.validator.judge (Validator.seen s.files path)))⟩
    else conclude s u none (.ok none)
  | .settleFile u path conduct =>
    conclude { s with files := Validator.settle s.files path conduct } u none conduct.verdict
  | .publish publication => ⟨s, [.published publication], none⟩

/-- What concluding leaves to do is to publish. -/
theorem rank_conclude {s : Service} {u : Uri} {version : Option Int} {verdict : Verdict}
    {next : Work} (h : (conclude s u version verdict).next = some next) : next.rank = 1 := by
  unfold conclude at h
  split at h <;> (obtain rfl := Option.some.inj h; rfl)

/-- Every step leaves less to do. -/
theorem rank_step {sur : Surroundings} {s : Service} {w next : Work}
    (h : (step sur s w).next = some next) : next.rank < w.rank := by
  have concluded {s : Service} {u : Uri} {version : Option Int} {verdict : Verdict}
      (h : (conclude s u version verdict).next = some next) (hw : 1 < w.rank) :
      next.rank < w.rank := by
    rw [rank_conclude h]; exact hw
  cases w with
  | afterChange d =>
    simp only [step] at h
    split at h
    · obtain rfl := Option.some.inj h; simp [rank]
    · cases h
  | afterSave u =>
    simp only [step] at h
    obtain rfl := Option.some.inj h
    split <;> simp [rank]
  | copy d =>
    simp only [step] at h
    split at h
    · split at h
      · obtain rfl := Option.some.inj h; simp [rank]
      · exact concluded h (by simp [rank])
    · exact concluded h (by simp [rank])
  | fill d workspace =>
    simp only [step] at h
    split at h
    · obtain rfl := Option.some.inj h; simp [rank]
    · exact concluded h (by simp [rank])
  | judge d workspace => obtain rfl := Option.some.inj h; simp [rank]
  | settle d workspace conduct => obtain rfl := Option.some.inj h; simp [rank]
  | tidy d workspace verdict =>
    simp only [step] at h
    split at h <;> exact concluded h (by simp [rank])
  | judgeFile u =>
    simp only [step] at h
    split at h
    · split at h
      · exact concluded h (by simp [rank])
      · obtain rfl := Option.some.inj h; simp [rank]
    · exact concluded h (by simp [rank])
  | settleFile u path conduct => exact concluded h (by simp [rank])
  | publish publication => cases h

end Work

end Kickstart
