/-
# Kickstart.Proofs.Files.Removal -- a workspace that is removed leaves nothing behind

A workspace is made where nothing was, so that taking it away again, with all that was put
in it, gives back the very files that were there before, and not only files that look the
same (`removeTree_put`, `removeTree_of_absent`).

`Scratch.Besides` says that files are those from before and a workspace, which may be gone
already.  Making a workspace establishes it (`besides_create`), writing the buffer and a run
keep it (`Besides.writeInput`, `Besides.settle`), and closing or dropping ends it
(`Besides.close`, `Besides.drop`) whenever the workspace could have been removed right after
it was made (`reachable_of_close`).
-/
import Kickstart.Proofs.Files.Isolation

namespace Kickstart

set_option autoImplicit false

/-! ## Removing a tree -/

namespace Files

variable {fs fs' : Files} {p top : Place} {e : Entry}

/-- What is put into a tree goes with it. -/
theorem removeTree_put (inside : top <+: p) :
    (fs.put p e).removeTree top = fs.removeTree top := by
  have within : top.within p = true := Place.within_iff.mpr inside
  obtain ⟨entries, here⟩ := fs
  simp only [put, removeTree, mk.injEq, and_true]
  induction entries with
  | nil => simp [putEntry, within]
  | cons x rest ih =>
      obtain ⟨q, d⟩ := x
      by_cases same : q = p
      · simp [putEntry, same, within]
      · simp only [putEntry, if_neg same, List.filter_cons, ih]

theorem removeTree_removeTree (fs : Files) (top : Place) :
    (fs.removeTree top).removeTree top = fs.removeTree top := by
  simp [removeTree, List.filter_filter]

/-- Where there is no tree, removing it changes nothing. -/
theorem removeTree_of_absent (absent : ∀ q, top <+: q → fs.get? q = none) :
    fs.removeTree top = fs := by
  have outside : ∀ x ∈ fs.entries, (!top.within x.1) = true := by
    intro x member
    rw [Bool.not_eq_true', Place.within_eq_false_iff]
    intro inside
    have nothing := absent x.1 inside
    rw [get?] at nothing
    split at nothing
    · cases nothing
    · have other := List.lookup_eq_none_iff.mp nothing x member
      simp at other
  unfold removeTree
  rw [List.filter_eq_self.mpr outside]

theorem removeTree_addFiles (directory : Place) (fs : Files) (files : List (Name × Bytes)) :
    (Validator.addFiles directory fs files).removeTree directory = fs.removeTree directory := by
  induction files generalizing fs with
  | nil => rfl
  | cons file rest ih =>
      obtain ⟨name, content⟩ := file
      rw [Validator.addFiles, ih, removeTree_put (List.prefix_append directory [name])]

end Files

/-! ## Files with a workspace besides -/

namespace Scratch

open Files

variable {root : Place} {w : Scratch} {fs now left : Files} {text : Text}

/-- The files are those from before and a workspace, which may be gone already. -/
structure Besides (w : Scratch) (fs now : Files) : Prop where
  others : now.removeTree w.place = fs
  whole : now.get? w.place = some .directory ∨ now = fs

theorem besides_create {path : Path} {seed : Nat} (created : create fs path seed = .ok (w, now)) :
    w.Besides fs now := by
  obtain ⟨under, rfl, absent⟩ := create_eq_ok created
  refine ⟨?_, .inl (get?_put_self under.ne_nil)⟩
  rw [removeTree_put (List.prefix_refl w.place), removeTree_of_absent absent]

theorem Besides.writeInput {filled : Files} (besides : w.Besides fs now)
    (directory : now.get? w.place = some .directory) (under : w.Under root)
    (proper : root.Proper) (written : writeInput now w text = .ok filled) :
    w.Besides fs filled ∧ filled.get? w.place = some .directory := by
  have stays : filled.get? w.place = some .directory :=
    (get?_writeInput under proper written).trans directory
  refine ⟨⟨?_, .inl stays⟩, stays⟩
  obtain ⟨-, executable, rfl⟩ := writeInput_eq_ok under proper written
  rw [removeTree_put w.place_prefix_inputPlace, besides.others]

/-- Whatever a run leaves in the workspace, and whether it removes it or not. -/
theorem Besides.settle (besides : w.Besides fs now)
    (directory : now.get? w.place = some .directory) (under : w.Under root)
    (proper : root.Proper) (conduct : Conduct) :
    w.Besides fs (Validator.settle now w.inputPath conduct) := by
  unfold Validator.settle
  split
  · exact besides
  · rename_i place found
    obtain rfl := directoryOf?_inputPath under proper found
    have others : (Validator.addFiles w.place now conduct.leaves).removeTree w.place = fs :=
      (removeTree_addFiles w.place now conduct.leaves).trans besides.others
    simp only
    split
    · exact ⟨by rw [removeTree_removeTree, others], .inr others⟩
    · refine ⟨others, .inl ?_⟩
      rw [(addFiles_spec w.place now conduct.leaves).2, directory]

/-! ## Removing a workspace for good -/

/-- The system finds the workspace under its path, if it is there. -/
structure Reachable (root : Place) (w : Scratch) (fs : Files) : Prop where
  acceptable : (Path.ofPlace w.place).Acceptable
  passable : fs.Passable root

/-- A directory that is removed by its path can be reached by it. -/
theorem reachable_of_close (under : w.Under root) (proper : root.Proper)
    (directory : now.get? w.place = some .directory) (closed : close now w = .ok left)
    (gone : left.get? w.place = none) : w.Reachable root now := by
  cases leads : now.canonical (.ofPlace w.place) with
  | error fault =>
      -- nothing was removed then, so that the directory would still be there
      have untouched : now.removeDirectory (.ofPlace w.place) = (now, .error fault) := by
        rw [removeDirectory, leads]
      rw [close, destroy, untouched] at closed
      cases missing : fault.isNotFound with
      | false => simp [missing] at closed
      | true =>
          simp only [missing, if_true, Except.ok.injEq] at closed
          rw [← closed, directory] at gone
          cases gone
  | ok place =>
      obtain ⟨acceptable, passable⟩ :=
        passable_of_locate under proper (canonical_eq_ok_iff.mp leads).1
      exact ⟨acceptable, passable⟩

theorem Alike.reachable (alike : Alike root fs now) (reachable : w.Reachable root fs) :
    w.Reachable root now :=
  ⟨reachable.acceptable, alike.passable reachable.passable⟩

theorem Besides.alike (besides : w.Besides fs now) (under : w.Under root) : Alike root now fs := by
  rw [← besides.others]
  exact under.alike (sameOutside_removeTree under.ne_nil)

/-- Closing gives the files from before, also where there is nothing left to remove. -/
theorem Besides.close (besides : w.Besides fs now) (absent : fs.get? w.place = none)
    (under : w.Under root) (proper : root.Proper) (reachable : w.Reachable root fs) :
    close now w = .ok fs := by
  obtain ⟨acceptable, passable⟩ := (besides.alike under).symm.reachable reachable
  rcases besides.whole with directory | rfl
  · rw [close_of_directory under proper acceptable passable directory, besides.others]
  · exact close_of_absent under proper acceptable passable absent

theorem Besides.drop (besides : w.Besides fs now) (absent : fs.get? w.place = none)
    (under : w.Under root) (proper : root.Proper) (reachable : w.Reachable root fs) :
    drop now w = fs := by
  rw [Scratch.drop, besides.close absent under proper reachable]

end Scratch

end Kickstart
