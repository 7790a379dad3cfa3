/-
# Kickstart.Proofs.Service.Cleanup -- a validation leaves no trace in the files

A validation of a buffer makes a workspace, and there are several ways out of it: no
workspace can be made, the buffer cannot be written, the run ends in one way or another,
and the workspace is gone when it is to be removed.  On all of them the files in the end
are the very files from the beginning (`validation_leaves_no_trace`).

All that is asked of the system is that it can remove a directory it has just made
(`Surroundings.Removes`).  From that follows that it can do so later on, with whatever is in
the directory by then, and that nothing is amiss if the directory is gone
(`Removes.close`, `Removes.drop`).
-/
import Kickstart.Proofs.Files.Removal
import Kickstart.Proofs.Service.Containment

namespace Kickstart

set_option autoImplicit false

open Files Scratch

/-! ## Workspaces that can be removed -/

namespace Surroundings

variable {sur : Surroundings} {fs made now : Files} {w : Scratch} {d : Document}

/-- A workspace can be removed right after it was made. -/
def Removes (sur : Surroundings) (fs : Files) : Prop :=
  ∀ w made, sur.create fs = .ok (w, made) →
    ∃ left, sur.close made w = .ok left ∧ left.get? w.place = none

/-- The buffer was copied: its workspace was made, and its text written to it. -/
def Copied (sur : Surroundings) (fs : Files) (d : Document) (w : Scratch) : Prop :=
  d.uri.isFile = true ∧
    ∃ made filled, sur.create fs = .ok (w, made) ∧ sur.write made w d.text = .ok filled

theorem besides_create (created : sur.create fs = .ok (w, made)) : w.Besides fs made :=
  Scratch.besides_create (Surroundings.create_eq_ok created).2

theorem absent_of_create (created : sur.create fs = .ok (w, made)) : fs.get? w.place = none :=
  (Scratch.create_eq_ok (Surroundings.create_eq_ok created).2).2.2 _ (List.prefix_refl _)

theorem Removes.reachable (removes : sur.Removes fs) (proper : fs.here.Proper)
    (created : sur.create fs = .ok (w, made)) :
    sur.hindrances.close = none ∧ w.Reachable (sur.root fs) fs := by
  obtain ⟨under, alike, directory, -⟩ := fresh_of_create created
  obtain ⟨left, closed, gone⟩ := removes w made created
  obtain ⟨unhindered, closed⟩ := Surroundings.close_eq_ok closed
  have proper_root : (sur.root fs).Proper := Path.proper_goal proper sur.temporary
  exact ⟨unhindered, alike.symm.reachable
    (reachable_of_close under proper_root directory closed gone)⟩

/-- What can be removed right away can be removed later, and may be gone by then. -/
theorem Removes.close (removes : sur.Removes fs) (proper : fs.here.Proper)
    (created : sur.create fs = .ok (w, made)) (besides : w.Besides fs now) :
    sur.close now w = .ok fs := by
  obtain ⟨unhindered, reachable⟩ := removes.reachable proper created
  have under := (fresh_of_create created).1
  rw [Surroundings.close, unhindered]
  exact besides.close (absent_of_create created) under (Path.proper_goal proper sur.temporary)
    reachable

theorem Removes.drop (removes : sur.Removes fs) (proper : fs.here.Proper)
    (created : sur.create fs = .ok (w, made)) (besides : w.Besides fs now) :
    Scratch.drop now w = fs := by
  obtain ⟨-, reachable⟩ := removes.reachable proper created
  have under := (fresh_of_create created).1
  exact besides.drop (absent_of_create created) under (Path.proper_goal proper sur.temporary)
    reachable

end Surroundings

/-! ## The ways out of a validation -/

namespace Target

variable {sur : Surroundings} {fs made filled : Files} {w : Scratch} {d : Document}

/-- A buffer that was copied is run on, and the run's verdict is what counts. -/
theorem check_of_copied (proper : fs.here.Proper) (removes : sur.Removes fs)
    (copied : sur.Copied fs d w) :
    (Target.buffer d).check sur fs =
      ⟨(sur.validator.judge d.text).verdict, [⟨w.inputPath.text, true, some d.text⟩], fs⟩ := by
  obtain ⟨file, made, filled, created, written⟩ := copied
  have proper_root : (sur.root fs).Proper := Path.proper_goal proper sur.temporary
  obtain ⟨under, -, directory, -⟩ := Surroundings.fresh_of_create created
  have wrote := (Surroundings.write_eq_ok written).2
  have reads := (writeInput_eq_ok under proper_root wrote).1
  obtain ⟨besides, still⟩ := (Surroundings.besides_create created).writeInput directory under
    proper_root wrote
  have closed := removes.close proper created
    (besides.settle still under proper_root (sur.validator.judge d.text))
  simp only [check, file, if_true, created, written, seen_of_readText? reads,
    recordOf_of_readText? reads, closed]

/-- A buffer that was not copied is not run on, and nothing is found in it. -/
theorem check_of_not_copied (proper : fs.here.Proper) (removes : sur.Removes fs)
    (not_copied : ∀ w, ¬ sur.Copied fs d w) :
    ∃ verdict, (Target.buffer d).check sur fs = ⟨verdict, [], fs⟩ ∧
      ∀ related, Verdict.diagnostics related verdict = [] := by
  simp only [check]
  split
  · rename_i file
    cases created : sur.create fs with
    | error fault => exact ⟨_, rfl, fun _ => rfl⟩
    | ok made =>
        obtain ⟨w, made⟩ := made
        simp only
        cases written : sur.write made w d.text with
        | error fault =>
            refine ⟨.error (.io fault), ?_, fun _ => rfl⟩
            simp only [removes.drop proper created (Surroundings.besides_create created)]
        | ok filled => exact absurd ⟨file, made, filled, created, written⟩ (not_copied w)
  · exact ⟨_, rfl, fun _ => rfl⟩

end Target

namespace Work

variable {sur : Surroundings} {s : Service} {now : Files} {w : Scratch} {d : Document}

/-- A run has ended, and its workspace can be closed. -/
theorem run_tidy (closed : sur.close now w = .ok s.files) (verdict : Verdict) :
    run sur never (.tidy d w verdict) { s with files := now } =
      ⟨s, (Target.buffer d).events s ⟨verdict, [], s.files⟩, none⟩ := by
  rw [run_never, step]
  simp only [closed]
  exact through_conclude sur s (.buffer d) verdict s.files

/-- The buffer cannot be written, and its workspace can be dropped. -/
theorem run_fill_of_refused {fault : IoFault} (refused : sur.write now w d.text = .error fault)
    (dropped : Scratch.drop now w = s.files) :
    run sur never (.fill d w) { s with files := now } =
      ⟨s, (Target.buffer d).events s ⟨.error (.io fault), [], s.files⟩, none⟩ := by
  rw [run_never, step]
  simp only [refused, dropped]
  exact through_conclude sur s (.buffer d) (.error (.io fault)) s.files

end Work

/-! ## No trace is left -/

namespace Service

/-- The validation of a buffer, on all files whose working directory has proper names and
whatever becomes of it, if a workspace can be removed right after it was made:

1. it comes to its end, and the service and its files are exactly as they were before;
2. if the buffer was copied there was one run, the run found the text of the buffer at its
   path, and what is published is what its verdict means, whatever it did to the workspace;
3. if not, there was no run, and nothing is published as found;
4. all of this does not depend on how a run treats its workspace: from whatever is in the
   workspace, and also from a workspace that is gone, what is left to do ends in the
   files from before and publishes what the verdict means;
5. nor does it depend on how far a write got before it failed. -/
theorem validation_leaves_no_trace {sur : Surroundings} {s : Service}
    (proper : s.files.here.Proper) (removes : sur.Removes s.files) (d : Document) :
    let after := Work.run sur Work.never (.copy d) s
    let found (verdict : Verdict) : Publication :=
      ⟨d.uri, Verdict.diagnostics (Work.relatedTo s d.uri) verdict, some d.version⟩
    (after.next = none ∧ after.service = s) ∧
      (∀ w, sur.Copied s.files d w →
        Event.runs after.events = [⟨w.inputPath.text, true, some d.text⟩] ∧
        Event.publications after.events = [found (sur.validator.judge d.text).verdict]) ∧
      ((∀ w, ¬ sur.Copied s.files d w) →
        Event.runs after.events = [] ∧
        Event.publications after.events = [⟨d.uri, [], some d.version⟩]) ∧
      ∀ w made, sur.create s.files = .ok (w, made) → ∀ now, w.Besides s.files now →
        (∀ verdict,
          let ended := Work.run sur Work.never (.tidy d w verdict) { s with files := now }
          ended.next = none ∧ ended.service = s ∧
            Event.publications ended.events = [found verdict]) ∧
        ∀ fault, sur.write now w d.text = .error fault →
          let ended := Work.run sur Work.never (.fill d w) { s with files := now }
          ended.next = none ∧ ended.service = s ∧ Event.runs ended.events = [] ∧
            Event.publications ended.events = [⟨d.uri, [], some d.version⟩] := by
  intro after found
  have ran : after = ⟨{ s with files := ((Target.buffer d).check sur s.files).files },
      (Target.buffer d).events s ((Target.buffer d).check sur s.files), none⟩ :=
    Work.run_target sur (.buffer d) s
  refine ⟨⟨by rw [ran], ?_⟩, fun w copied => ?_, fun not_copied => ?_, ?_⟩
  · rw [ran]
    by_cases copied : ∃ w, sur.Copied s.files d w
    · obtain ⟨w, copied⟩ := copied
      rw [Target.check_of_copied proper removes copied]
    · obtain ⟨verdict, checked, -⟩ :=
        Target.check_of_not_copied proper removes (not_exists.mp copied)
      rw [checked]
  · rw [ran, Target.runs_events, Target.publications_events,
      Target.check_of_copied proper removes copied]
    exact ⟨rfl, rfl⟩
  · obtain ⟨verdict, checked, nothing⟩ := Target.check_of_not_copied proper removes not_copied
    rw [ran, Target.runs_events, Target.publications_events, checked, Target.publication, nothing]
    exact ⟨rfl, rfl⟩
  · intro w made created now besides
    refine ⟨fun verdict => ?_, fun fault refused => ?_⟩
    · rw [Work.run_tidy (removes.close proper created besides)]
      exact ⟨rfl, rfl, Target.publications_events⟩
    · rw [Work.run_fill_of_refused refused (removes.drop proper created besides)]
      exact ⟨rfl, rfl, Target.runs_events, Target.publications_events⟩

/-- A run that leaves a file behind and then removes the workspace it was given. -/
theorem validation_leaves_no_trace_removed :
    let u : Uri := ⟨"file", some ⟨"", "", none⟩, .rooted ["a.ks"], none, none⟩
    let d : Document := ⟨u, 1, ['a']⟩
    let report : Text := "on line 2 of\nx".toList
    let rude : Surroundings :=
      ⟨⟨true, fun _ => ⟨.ok (some report), [([108], [])], true⟩⟩, fun _ => .ok none, .ofPlace [],
        .none⟩
    let s : Service := ⟨⟨[d]⟩, some ⟨.none, true, .global .default⟩, default⟩
    let after := Work.run rude Work.never (.copy d) s
    s.files.here.Proper ∧ rude.Removes s.files ∧ rude.Copied s.files d ⟨[name 0]⟩ ∧
      after.service = s ∧
      Event.publications after.events = [⟨u, Report.diagnostics report none, some 1⟩] := by
  intro u d report rude s after
  have proper : s.files.here.Proper := by decide
  have made : Scratch.create default (.ofPlace []) 0 =
      .ok (⟨[name 0]⟩, ⟨[([name 0], .directory)], []⟩) := by rfl
  have created : rude.create s.files = .ok (⟨[name 0]⟩, ⟨[([name 0], .directory)], []⟩) := made
  have removes : rude.Removes s.files := by
    intro w made creates
    obtain ⟨rfl, rfl⟩ := Prod.mk.inj (Except.ok.inj (created.symm.trans creates))
    exact ⟨default, by rfl, by rfl⟩
  have copied : rude.Copied s.files d ⟨[name 0]⟩ :=
    ⟨rfl, _, ⟨[([name 0], .directory), ([name 0, inputName], .file [97] false)], []⟩, created,
      by rfl⟩
  obtain ⟨⟨-, same⟩, runs, -⟩ := validation_leaves_no_trace proper removes d
  exact ⟨proper, removes, copied, same, (runs _ copied).2⟩

end Service

end Kickstart
