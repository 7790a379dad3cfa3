/-
# Kickstart.Proofs.Service.Checks -- a validation from its beginning to its end

A validation is cut into steps where it waits (`Work.step`).  Carried through without a
pause it is one function of the files it finds (`Target.check`): make a workspace, write
the buffer, run the validator, close the workspace, and use the run's verdict only if
all of that worked; a file on disk is run on as it is, and where nothing is to be checked
nothing is done.  Everything that a validation does outside the files is in
`Target.events`: the runs, a warning if it failed, and one publication, which is empty
unless the verdict is a report.

* `run_target`: the steps add up to that function.
* `finish_targets`: so do the steps of several validations, each on the files that the
  one before it left.
-/
import Kickstart.Service.Handlers

namespace Kickstart

set_option autoImplicit false

/-- What a verdict puts before the reader of a document. -/
def Verdict.diagnostics (related : Option Uri) : Verdict → List Diagnostic
  | .ok (some report) => Report.diagnostics report related
  | _ => []

/-- What is checked: a buffer, the file on disk that a URI names, or nothing at all, so
that what was published for a URI is cleared. -/
inductive Target where
  | buffer (document : Document)
  | file (uri : Uri)
  | nothing (uri : Uri)

/-- How a validation went: what it came to, the runs it took, and the files after it. -/
structure Check where
  verdict : Verdict
  runs : List Run
  files : Files

theorem Uri.isFile_of_filePath? {u : Uri} {bytes : Bytes} (names : u.filePath? = some bytes) :
    u.isFile = true := by
  unfold Uri.filePath? at names
  split at names
  · assumption
  · cases names

namespace Target

/-- The document that is checked. -/
def uri : Target → Uri
  | .buffer d => d.uri
  | .file u => u
  | .nothing u => u

/-- The version of the buffer that is checked. -/
def version : Target → Option Int
  | .buffer d => some d.version
  | .file _ => none
  | .nothing _ => none

/-- The work that checks the target. -/
def work : Target → Work
  | .buffer d => .copy d
  | .file u => .judgeFile u
  | .nothing u => .publish ⟨u, [], none⟩

/-- The validation of a target, on the files of the moment. -/
def check (sur : Surroundings) (fs : Files) : Target → Check
  | .buffer d =>
    if d.uri.isFile then
      match sur.create fs with
      | .error fault => ⟨.error (.io fault), [], fs⟩
      | .ok (workspace, made) =>
        match sur.write made workspace d.text with
        | .error fault => ⟨.error (.io fault), [], Scratch.drop made workspace⟩
        | .ok filled =>
          let runs := [Validator.recordOf filled workspace.inputPath]
          let conduct := sur.validator.judge (Validator.seen filled workspace.inputPath)
          let settled := Validator.settle filled workspace.inputPath conduct
          match sur.close settled workspace with
          | .error fault => ⟨.error (.io fault), runs, settled⟩
          | .ok closed => ⟨conduct.verdict, runs, closed⟩
    else ⟨.ok none, [], fs⟩
  | .file u =>
    if u.isFile then
      match u.filePath? with
      | none => ⟨.error (.notLocal u), [], fs⟩
      | some bytes =>
        let conduct := sur.validator.judge (Validator.seen fs ⟨bytes⟩)
        ⟨conduct.verdict, [Validator.recordOf fs ⟨bytes⟩], Validator.settle fs ⟨bytes⟩ conduct⟩
    else ⟨.ok none, [], fs⟩
  | .nothing _ => ⟨.ok none, [], fs⟩

/-- Validations one after the other, each with its target. -/
def checkAll (sur : Surroundings) : Files → List Target → List (Target × Check)
  | _, [] => []
  | fs, t :: rest => (t, t.check sur fs) :: checkAll sur (t.check sur fs).files rest

/-- The publication that a validation ends with. -/
def publication (s : Service) (t : Target) (verdict : Verdict) : Publication :=
  ⟨t.uri, Verdict.diagnostics (Work.relatedTo s t.uri) verdict, t.version⟩

/-- What others see of a validation. -/
def events (s : Service) (t : Target) (c : Check) : List Event :=
  c.runs.map .ran ++
    ((match c.verdict with
        | .ok _ => []
        | .error failure => [.warned (.validationFailed t.uri failure)]) ++
      [.published (t.publication s c.verdict)])

/-- The files after validations. -/
def filesAfter (fs : Files) (checks : List (Target × Check)) : Files :=
  checks.foldl (fun _ tc => tc.2.files) fs

end Target

/-! ## What the system does not refuse -/

namespace Surroundings

variable {sur : Surroundings} {fs fs' made : Files} {w : Scratch}

theorem create_eq_ok (made_it : sur.create fs = .ok (w, made)) :
    sur.hindrances.create = none ∧ Scratch.create fs sur.temporary 0 = .ok (w, made) := by
  unfold create at made_it
  split at made_it
  · cases made_it
  · exact ⟨‹_›, made_it⟩

theorem write_eq_ok {text : Text} (written : sur.write fs w text = .ok fs') :
    sur.hindrances.write = none ∧ Scratch.writeInput fs w text = .ok fs' := by
  unfold write at written
  split at written
  · cases written
  · exact ⟨‹_›, written⟩

theorem close_eq_ok (closed : sur.close fs w = .ok fs') :
    sur.hindrances.close = none ∧ Scratch.close fs w = .ok fs' := by
  unfold close at closed
  split at closed
  · cases closed
  · exact ⟨‹_›, closed⟩

end Surroundings

/-! ## Works without a pause -/

namespace Work

variable {sur : Surroundings} {s : Service}

/-- What a step leaves, carried through. -/
def through (sur : Surroundings) : Progress → Progress
  | ⟨s, events, none⟩ => ⟨s, events, none⟩
  | ⟨s, events, some next⟩ =>
    { run sur never next s with events := events ++ (run sur never next s).events }

theorem run_never (sur : Surroundings) (w : Work) (s : Service) :
    run sur never w s = through sur (step sur s w) := by
  rw [run]
  simp only [never, Bool.false_eq_true, if_false]
  split
  · rename_i stepped
    rw [stepped, through]
  · rename_i stepped
    rw [stepped, through]

@[simp] theorem through_silent (sur : Surroundings) (s : Service) (next : Work) :
    through sur ⟨s, [], some next⟩ = run sur never next s := by
  simp [through]

/-- Every work comes to its end. -/
theorem next_run_never (sur : Surroundings) (w : Work) (s : Service) :
    (run sur never w s).next = none := by
  rw [run_never]
  cases stepped : step sur s w with
  | mk after events next =>
      cases next with
      | none => rfl
      | some next =>
          have : next.rank < w.rank := rank_step (congrArg Progress.next stepped)
          exact next_run_never sur next after
termination_by w.rank

@[simp] theorem run_publish (sur : Surroundings) (p : Publication) (s : Service) :
    run sur never (.publish p) s = ⟨s, [.published p], none⟩ := by
  rw [run_never]
  rfl

/-- A conclusion leads to one publication, behind a warning if it is a failure. -/
theorem through_conclude (sur : Surroundings) (s : Service) (t : Target) (verdict : Verdict)
    (files : Files) :
    through sur (conclude s t.uri t.version verdict) =
      ⟨s, t.events s ⟨verdict, [], files⟩, none⟩ := by
  cases verdict with
  | error failure => simp [conclude, through, Target.events, Target.publication, Verdict.diagnostics]
  | ok report =>
      cases report <;>
        simp [conclude, through, Target.events, Target.publication, Verdict.diagnostics]

/-- The steps of a validation add up to it. -/
theorem run_target (sur : Surroundings) (t : Target) (s : Service) :
    run sur never t.work s =
      ⟨{ s with files := (t.check sur s.files).files }, t.events s (t.check sur s.files), none⟩ := by
  cases t with
  | buffer d =>
      have concluded (fs : Files) (verdict : Verdict) :
          through sur (conclude { s with files := fs } d.uri (some d.version) verdict) =
            ⟨{ s with files := fs }, (Target.buffer d).events s ⟨verdict, [], fs⟩, none⟩ :=
        through_conclude sur { s with files := fs } (.buffer d) verdict fs
      rw [Target.work, run_never, step, Target.check]
      by_cases file : d.uri.isFile
      · simp only [file, if_true]
        cases sur.create s.files with
        | error fault => exact concluded s.files (.error (.io fault))
        | ok made =>
            obtain ⟨workspace, made⟩ := made
            simp only [through_silent]
            rw [run_never, step]
            simp only
            cases sur.write made workspace d.text with
            | error fault => exact concluded _ (.error (.io fault))
            | ok filled =>
                simp only [through_silent]
                rw [run_never, step, through, run_never, step, through_silent, run_never, step]
                simp only
                generalize sur.close (Validator.settle filled _ _) workspace = closing
                cases closing with
                | error fault =>
                    rw [concluded _ (.error (.io fault))]
                    rfl
                | ok closed =>
                    rw [concluded closed]
                    rfl
      · simp only [file]
        exact concluded s.files (.ok none)
  | file u =>
      have concluded (fs : Files) (verdict : Verdict) :
          through sur (conclude { s with files := fs } u none verdict) =
            ⟨{ s with files := fs }, (Target.file u).events s ⟨verdict, [], fs⟩, none⟩ :=
        through_conclude sur { s with files := fs } (.file u) verdict fs
      rw [Target.work, run_never, step, Target.check]
      by_cases file : u.isFile
      · simp only [file, if_true]
        cases u.filePath? with
        | none => exact concluded s.files (.error (.notLocal u))
        | some bytes =>
            simp only [through]
            rw [run_never, step, concluded]
            rfl
      · simp only [file]
        exact concluded s.files (.ok none)
  | nothing u => exact run_publish sur ⟨u, [], none⟩ s

end Work

/-! ## Handlers without a pause -/

namespace Service

variable {sur : Surroundings} {s : Service}

theorem run_never_cons (sur : Surroundings) (s : Service) (w : Work) (rest : List Work) :
    s.run sur Work.never (w :: rest) =
      { (Work.run sur Work.never w s).service.run sur Work.never rest with
        events := (Work.run sur Work.never w s).events ++
          ((Work.run sur Work.never w s).service.run sur Work.never rest).events } := by
  have ends := Work.next_run_never sur w s
  rw [Service.run]
  cases ran : Work.run sur Work.never w s with
  | mk after events next =>
      rw [ran] at ends
      simp only at ends
      subst ends
      rfl

@[simp] theorem finish_nil (sur : Surroundings) (s : Service) : s.finish sur [] = (s, []) := rfl

theorem finish_cons (sur : Surroundings) (s : Service) (w : Work) (rest : List Work) :
    s.finish sur (w :: rest) =
      (((Work.run sur Work.never w s).service.finish sur rest).1,
        (Work.run sur Work.never w s).events ++
          ((Work.run sur Work.never w s).service.finish sur rest).2) := by
  unfold finish
  rw [run_never_cons]

/-- Handling is its immediate part, and then its works. -/
theorem handle_eq_finish (sur : Surroundings) (s : Service) (n : Notice) :
    s.handle sur n =
      (((s.receive n).service.finish sur (s.receive n).left).1,
        (s.receive n).events ++ ((s.receive n).service.finish sur (s.receive n).left).2) := rfl

/-- Validations one after the other touch nothing but the files. -/
theorem finish_targets (sur : Surroundings) (s : Service) (ts : List Target) :
    s.finish sur (ts.map Target.work) =
      ({ s with files := Target.filesAfter s.files (Target.checkAll sur s.files ts) },
        (Target.checkAll sur s.files ts).flatMap fun tc => tc.1.events s tc.2) := by
  induction ts generalizing s with
  | nil => rfl
  | cons t rest ih =>
      rw [List.map_cons, finish_cons, Work.run_target]
      simp only
      rw [ih]
      rfl

/-- A changed buffer is checked if the settings of its document say so. -/
theorem finish_afterChange (sur : Surroundings) (s : Service) (d : Document) :
    s.finish sur [.afterChange d] =
      let (settings, events, s) := Work.learnSettings sur d.uri s
      let (s, later) := s.finish sur (if settings.lintOnChange then [.copy d] else [])
      (s, events ++ later) := by
  rw [finish_cons, Work.run_never, Work.step]
  simp only [finish_nil, List.append_nil]
  split
  · simp [Work.through, finish_cons]
  · simp [Work.through]

/-- A saved file is checked if the settings of its document say so, and else cleared. -/
theorem finish_afterSave (sur : Surroundings) (s : Service) (u : Uri) :
    s.finish sur [.afterSave u] =
      let (settings, events, s) := Work.learnSettings sur u s
      let (s, later) := s.finish sur
        [if settings.lintOnSave then .judgeFile u else .publish ⟨u, [], none⟩]
      (s, events ++ later) := by
  rw [finish_cons, Work.run_never, Work.step]
  simp [Work.through, finish_cons]

end Service

/-! ## Kinds of events -/

namespace Event

@[simp] theorem publications_append (a b : List Event) :
    publications (a ++ b) = publications a ++ publications b := List.filterMap_append

@[simp] theorem runs_append (a b : List Event) : runs (a ++ b) = runs a ++ runs b :=
  List.filterMap_append

@[simp] theorem queries_append (a b : List Event) : queries (a ++ b) = queries a ++ queries b :=
  List.filterMap_append

/-- Nothing but queries and warnings. -/
def Quiet (events : List Event) : Prop := runs events = [] ∧ publications events = []

theorem quiet_warned (warnings : List Warning) : Quiet (warnings.map .warned) := by
  constructor <;> simp [runs, publications, List.filterMap_map]

theorem Quiet.append {a b : List Event} (left : Quiet a) (right : Quiet b) : Quiet (a ++ b) := by
  simp [Quiet, left.1, left.2, right.1, right.2]

end Event

namespace Target

variable {s : Service} {t : Target} {c : Check} {sur : Surroundings} {fs : Files}

theorem runs_events : Event.runs (t.events s c) = c.runs := by
  unfold events
  have ran : Event.runs (c.runs.map .ran) = c.runs := by
    rw [Event.runs, List.filterMap_map]
    exact List.filterMap_some
  rw [Event.runs_append, Event.runs_append, ran]
  cases c.verdict <;> simp [Event.runs]

theorem publications_events : Event.publications (t.events s c) = [t.publication s c.verdict] := by
  unfold events
  have ran : Event.publications (c.runs.map .ran) = [] := by
    simp [Event.publications, List.filterMap_map]
  rw [Event.publications_append, Event.publications_append, ran]
  cases c.verdict <;> simp [Event.publications]

theorem queries_events : Event.queries (t.events s c) = [] := by
  unfold events
  have ran : Event.queries (c.runs.map .ran) = [] := by
    simp [Event.queries, List.filterMap_map]
  rw [Event.queries_append, Event.queries_append, ran]
  cases c.verdict <;> simp [Event.queries]

theorem map_fst_checkAll (sur : Surroundings) (fs : Files) (ts : List Target) :
    (checkAll sur fs ts).map Prod.fst = ts := by
  induction ts generalizing fs with
  | nil => rfl
  | cons t rest ih => simp [checkAll, ih]

theorem mem_checkAll {tc : Target × Check} {ts : List Target} (member : tc ∈ checkAll sur fs ts) :
    ∃ fs', tc.2 = tc.1.check sur fs' := by
  induction ts generalizing fs with
  | nil => cases member
  | cons t rest ih =>
      rcases List.mem_cons.mp member with rfl | later
      · exact ⟨fs, rfl⟩
      · exact ih later

/-- A validation takes one run at most. -/
theorem length_runs_check (sur : Surroundings) (fs : Files) (t : Target) :
    (t.check sur fs).runs.length ≤ 1 := by
  cases t with
  | buffer d =>
      simp only [check]
      split
      · split
        · simp
        · split
          · simp
          · split <;> simp
      · simp
  | file u =>
      simp only [check]
      split
      · split <;> simp
      · simp
  | nothing u => simp [check]

/-- What is no file is not run on, and nothing is found in it. -/
theorem check_of_not_isFile (sur : Surroundings) (fs : Files) (other : t.uri.isFile = false) :
    t.check sur fs = ⟨.ok none, [], fs⟩ := by
  cases t <;> simp_all [check, uri]

end Target

end Kickstart
