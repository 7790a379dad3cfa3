/-
# Kickstart.Proofs.Service.Workspaces -- every step keeps to its own workspace

A work that holds a workspace stands well with it (`Work.Settled`): it lies under the
root, its directory is there, and at the run its input file holds the buffer.  A step of
any work leaves the next work standing well, takes a workspace over or makes one where
nothing was, and spares the ways to all other workspaces (`Work.Keeps`,
`Work.advance_keeps`).
-/
import Kickstart.Proofs.Service.Scene

namespace Kickstart

set_option autoImplicit false

open Files Scratch

namespace Work

variable {sur : Surroundings} {seed : Nat} {s : Service} {x y : Work} {root : Place}

theorem conclude_eq (s : Service) (u : Uri) (version : Option Int) (verdict : Verdict) :
    conclude s u version verdict =
      ⟨s, (match verdict with
          | .ok _ => []
          | .error failure => [.warned (.validationFailed u failure)]),
        some (.publish ⟨u, Verdict.diagnostics (relatedTo s u) verdict, version⟩)⟩ := by
  cases verdict with
  | error failure => rfl
  | ok report => cases report <;> rfl

/-! ## Works and their workspaces -/

/-- Where a work stands with its workspace: it lies under the root, its directory is there,
and at the run it holds the buffer. -/
structure Settled (root : Place) (fs : Files) (x : Work) : Prop where
  directory : ∀ w, x.workspace? = some w → w.Under root ∧ fs.get? w.place = some .directory
  filled : ∀ d w, x = .judge d w → fs.readText? w.inputPath = some d.text

/-- A work without a workspace stands well. -/
theorem settled_of_free {fs : Files} (free : x.workspace? = none) : x.Settled root fs := by
  refine ⟨fun w holds => ?_, fun d w same => ?_⟩
  · rw [free] at holds
    cases holds
  · rw [same] at free
    cases free

/-- What a step does: the next work stands well with its workspace, which is the one it had
or a new one, and the ways to other workspaces are as they were. -/
structure Keeps (root : Place) (vs : List Scratch) (s : Service) (x : Work) (p : Progress) :
    Prop where
  store : p.service.store = s.store
  here : p.service.files.here = s.files.here
  next : ∀ y, p.next = some y → y.Settled root p.service.files
  origin : ∀ y w, p.next = some y → y.workspace? = some w →
    x.workspace? = some w ∨ x.workspace? = none ∧ s.files.get? w.place = none
  others : ∀ v ∈ vs, v.Under root → x.workspace? ≠ some v →
    s.files.get? v.place = some .directory → Scene.Spared s.files p.service.files v

variable {vs : List Scratch}

/-- What happens in one workspace leaves the way to another alone. -/
theorem spared_of_sameOutside {v w : Scratch} {fs fs' : Files} (here : v.Under root)
    (there : w.Under root) (other : w ≠ v) (same : SameOutside w.place fs fs') :
    Scene.Spared fs fs' v :=
  fun q on_way => same.entry q (here.apart there other on_way)

/-- A step that leaves the files alone and ends without a workspace. -/
theorem keeps_of_free {t : Service} {events : List Event} {next : Option Work}
    (store : t.store = s.store) (files : t.files = s.files)
    (free : ∀ {y}, next = some y → y.workspace? = none) : Keeps root vs s x ⟨t, events, next⟩ where
  store := store
  here := by rw [files]
  next _ after := settled_of_free (free after)
  origin y w after holds := by
    rw [free after] at holds
    cases holds
  others _ _ _ _ _ _ _ := by rw [files]

/-- A step in a workspace that stays. -/
theorem keeps_of_own {fs : Files} {events : List Event} {w : Scratch}
    (own : x.workspace? = some w) (keeps : y.workspace? = some w) (under : w.Under root)
    (same : SameOutside w.place s.files fs) (directory : fs.get? w.place = some .directory)
    (filled : ∀ d v, y = .judge d v → fs.readText? v.inputPath = some d.text) :
    Keeps root vs s x ⟨{ s with files := fs }, events, some y⟩ where
  store := rfl
  here := same.here
  next z after := by
    obtain rfl := Option.some.inj after
    refine ⟨fun v holds => ?_, filled⟩
    obtain rfl := Option.some.inj (keeps.symm.trans holds)
    exact ⟨under, directory⟩
  origin z v after holds := by
    obtain rfl := Option.some.inj after
    exact .inl (own.trans (keeps.symm.trans holds))
  others _ _ there other _ :=
    spared_of_sameOutside there under (fun this => other (this ▸ own)) same

/-- A step that changes its own workspace only and gives it up. -/
theorem keeps_conclude {fs : Files} {w : Scratch} (own : x.workspace? = some w)
    (under : w.Under root) (same : SameOutside w.place s.files fs) (u : Uri) (version : Option Int)
    (verdict : Verdict) :
    Keeps root vs s x (conclude { s with files := fs } u version verdict) := by
  rw [conclude_eq]
  refine ⟨rfl, same.here, fun y after => ?_, fun y w after holds => ?_, fun v _ there other _ => ?_⟩
  · obtain rfl := Option.some.inj after
    exact settled_of_free rfl
  · obtain rfl := Option.some.inj after
    cases holds
  · exact spared_of_sameOutside there under (fun this => other (this ▸ own)) same

/-- A step that concludes without touching files. -/
theorem keeps_conclude_same (u : Uri) (version : Option Int) (verdict : Verdict) :
    Keeps root vs s x (conclude s u version verdict) := by
  rw [conclude_eq]
  refine keeps_of_free rfl rfl fun after => ?_
  obtain rfl := Option.some.inj after
  rfl

/-- Every step keeps to its own workspace, as long as runs do. -/
theorem advance_keeps (proper : root.Proper) (rooted : sur.temporary.goal s.files.here = root)
    (settled : x.Settled root s.files)
    (gentle : ∀ d w conduct, x = .settle d w conduct → conduct.removesDirectory = false)
    (elsewhere : ∀ u path conduct, x = .settleFile u path conduct → ∀ v ∈ vs,
      Scene.Spared s.files (x.advance sur seed s).service.files v) :
    Keeps root vs s x (x.advance sur seed s) := by
  cases x with
  | afterChange d =>
      have free {y : Work} (after : (advance sur seed s (.afterChange d)).next = some y) :
          y.workspace? = none := by
        simp only [advance, step] at after
        split at after
        · obtain rfl := Option.some.inj after
          rfl
        · cases after
      exact keeps_of_free (Service.store_learnSettings sur d.uri s)
        (Service.files_learnSettings sur d.uri s) free
  | afterSave u =>
      have free {y : Work} (after : (advance sur seed s (.afterSave u)).next = some y) :
          y.workspace? = none := by
        simp only [advance, step] at after
        obtain rfl := Option.some.inj after
        split <;> rfl
      exact keeps_of_free (Service.store_learnSettings sur u s)
        (Service.files_learnSettings sur u s) free
  | copy d =>
      simp only [advance]
      split
      · split
        · rename_i w files created
          obtain ⟨under, rfl, fresh⟩ := create_eq_ok (Surroundings.createFrom_eq_ok created)
          rw [rooted] at under
          have absent := fresh w.place (List.prefix_refl _)
          refine ⟨rfl, rfl, fun y after => ?_, fun y v after holds => ?_, ?_⟩
          · obtain rfl := Option.some.inj after
            refine ⟨fun v holds => ?_, fun _ _ same => by cases same⟩
            obtain rfl := Option.some.inj holds
            exact ⟨under, get?_put_self under.ne_nil⟩
          · obtain rfl := Option.some.inj after
            obtain rfl := Option.some.inj holds
            exact .inr ⟨rfl, absent⟩
          · intro v _ there _ directory
            refine spared_of_sameOutside there under ?_ (sameOutside_put (List.prefix_refl _))
            rintro rfl
            rw [absent] at directory
            cases directory
        · exact keeps_conclude_same _ _ _
      · exact keeps_conclude_same _ _ _
  | fill d w =>
      obtain ⟨under, directory⟩ := settled.directory w rfl
      simp only [advance, step]
      split
      · rename_i files written
        have wrote := (Surroundings.write_eq_ok written).2
        refine keeps_of_own rfl rfl under (sameOutside_writeInput under proper wrote)
          ((get?_writeInput under proper wrote).trans directory) ?_
        rintro _ _ ⟨⟩
        exact (writeInput_eq_ok under proper wrote).1
      · exact keeps_conclude rfl under (sameOutside_drop under proper) _ _ _
  | judge d w =>
      obtain ⟨under, directory⟩ := settled.directory w rfl
      exact keeps_of_own rfl rfl under (.refl _ _) directory fun _ _ same => by cases same
  | settle d w conduct =>
      obtain ⟨under, directory⟩ := settled.directory w rfl
      refine keeps_of_own rfl rfl under (sameOutside_settle under proper) ?_
        fun _ _ same => by cases same
      exact (get?_settle under proper (gentle d w conduct rfl)).trans directory
  | tidy d w verdict =>
      obtain ⟨under, directory⟩ := settled.directory w rfl
      simp only [advance, step]
      split
      · rename_i files closed
        exact keeps_conclude rfl under
          (sameOutside_close under proper (Surroundings.close_eq_ok closed).2) _ _ _
      · exact keeps_conclude_same _ _ _
  | judgeFile u =>
      simp only [advance, step]
      split
      · split
        · exact keeps_conclude_same _ _ _
        · exact keeps_of_free rfl rfl fun after => by
            obtain rfl := Option.some.inj after
            rfl
      · exact keeps_conclude_same _ _ _
  | settleFile u path conduct =>
      have spared := elsewhere u path conduct rfl
      simp only [advance, step, conclude_eq] at spared ⊢
      refine ⟨rfl, here_settle path, fun y after => ?_, fun y w after holds => ?_,
        fun v member _ _ _ => spared v member⟩
      · obtain rfl := Option.some.inj after
        exact settled_of_free rfl
      · obtain rfl := Option.some.inj after
        cases holds
  | publish p => exact keeps_of_free rfl rfl fun after => by cases after

end Work

end Kickstart
