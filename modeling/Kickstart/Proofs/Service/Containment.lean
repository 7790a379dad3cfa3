/-
# Kickstart.Proofs.Service.Containment -- what a validation depends on and what it changes

A validation changes nothing outside workspaces (`Target.alike_check`), and what it finds
does not depend on what others have left in theirs (`diagnostics_check_congr`): a buffer
comes to the verdict on its own text if it can be copied (`verdict_of_copies`) and to a
failure if not, and whether it can is decided outside workspaces (`Copies.congr`); a file
on disk is seen as it is.

So among the validations of many documents, one after the other, those of one document
publish the same whatever the others are (`publications_congr`).
-/
import Kickstart.Proofs.Files.Isolation
import Kickstart.Proofs.Service.Checks

namespace Kickstart

set_option autoImplicit false

open Files Scratch

/-! ## A validation and the files it finds -/

namespace Surroundings

variable {sur : Surroundings} {fs fs' : Files} {w : Scratch} {made : Files}

/-- The root of workspaces. -/
def root (sur : Surroundings) (fs : Files) : Place := sur.temporary.goal fs.here

theorem root_congr (alike : fs'.here = fs.here) : sur.root fs' = sur.root fs := by
  rw [root, root, alike]

/-- A name for a workspace is left. -/
def Room (sur : Surroundings) (fs : Files) : Prop := (freePlace? fs (sur.root fs) 0).isSome = true

/-- Buffers can be copied: nothing is refused, and the way to the input file is open. -/
structure Copies (sur : Surroundings) (fs : Files) : Prop where
  unhindered : sur.hindrances = .none
  found : fs.canonical sur.temporary = .ok (sur.root fs)
  acceptable : ∀ w : Scratch, w.Under (sur.root fs) → w.inputPath.Acceptable
  passable : fs.Passable (sur.root fs)

/-- Runs do nothing but come to a verdict. -/
def Spares (sur : Surroundings) : Prop :=
  ∀ text, (sur.validator.judge text).leaves = [] ∧
    (sur.validator.judge text).removesDirectory = false

theorem settle_of_spares (spares : sur.Spares) (path : Path) (text : Text) :
    Validator.settle fs path (sur.validator.judge text) = fs := by
  obtain ⟨nothing, stays⟩ := spares text
  unfold Validator.settle
  split
  · rfl
  · simp [nothing, stays, Validator.addFiles]

theorem Copies.congr (alike : Alike (sur.root fs) fs fs')
    (passes : sur.temporary.Passes fs.here (sur.root fs)) (copies : sur.Copies fs) :
    sur.Copies fs' := by
  have same : sur.root fs' = sur.root fs := root_congr alike.here
  refine ⟨copies.unhindered, ?_, ?_, ?_⟩
  · rw [same, alike.canonical passes]
    exact copies.found
  · rw [same]
    exact copies.acceptable
  · rw [same]
    exact alike.passable copies.passable

/-- A new workspace is a directory with nothing in it, and nothing else is new. -/
theorem fresh_of_create (made_it : sur.create fs = .ok (w, made)) :
    w.Under (sur.root fs) ∧ Alike (sur.root fs) fs made ∧
      made.get? w.place = some .directory ∧ made.get? w.inputPlace = none := by
  obtain ⟨under, rfl, free⟩ := Scratch.create_eq_ok (Surroundings.create_eq_ok made_it).2
  refine ⟨under, under.alike (sameOutside_put (List.prefix_refl _)), get?_put_self under.ne_nil, ?_⟩
  rw [get?_put_ne (by simp [inputPlace])]
  exact free _ w.place_prefix_inputPlace

end Surroundings

namespace Target

variable {sur : Surroundings} {fs fs' : Files} {d : Document}

/-- There is room for a copy, if it takes one. -/
def Fits (sur : Surroundings) (fs : Files) : Target → Prop
  | .buffer _ => sur.Room fs
  | _ => True

/-- A buffer that can be copied comes to the verdict on its text. -/
theorem verdict_of_copies (file : d.uri.isFile = true) (proper : fs.here.Proper)
    (room : sur.Room fs) (copies : sur.Copies fs) :
    ((Target.buffer d).check sur fs).verdict = (sur.validator.judge d.text).verdict := by
  have proper_root : (sur.root fs).Proper := Path.proper_goal proper sur.temporary
  obtain ⟨place, free⟩ := Option.isSome_iff_exists.mp room
  have under_place := under_of_freePlace? free
  obtain ⟨⟨w, made⟩, created⟩ := (create_isOk_iff proper_root free).mpr
    ⟨copies.found, acceptable_place under_place (copies.acceptable _ under_place), copies.passable⟩
  have created : sur.create fs = .ok (w, made) := by
    rw [Surroundings.create, copies.unhindered]
    exact created
  obtain ⟨under, alike, here, empty⟩ := Surroundings.fresh_of_create created
  have acceptable := copies.acceptable w under
  obtain ⟨filled, wrote⟩ : ∃ filled, writeInput made w d.text = .ok filled :=
    (writeInput_isOk_iff under proper_root here empty).mpr
      ⟨acceptable, alike.passable copies.passable⟩
  have written : sur.write made w d.text = .ok filled := by
    rw [Surroundings.write, copies.unhindered]
    exact wrote
  have seen : Validator.seen filled w.inputPath = d.text :=
    seen_of_readText? (writeInput_eq_ok under proper_root wrote).1
  have still : filled.get? w.place = some .directory :=
    (get?_writeInput under proper_root wrote).trans here
  -- the run stays in the workspace, so that closing it is all that is left
  have later : Alike (sur.root fs) fs
      (Validator.settle filled w.inputPath (sur.validator.judge d.text)) :=
    (alike.trans (under.alike (sameOutside_writeInput under proper_root wrote))).trans
      (under.alike (sameOutside_settle under proper_root))
  obtain ⟨left, closes⟩ := close_isOk under proper_root acceptable (later.passable copies.passable)
    (get?_settle_cases under proper_root still)
  have closed : sur.close (Validator.settle filled w.inputPath (sur.validator.judge d.text)) w =
      .ok left := by
    rw [Surroundings.close, copies.unhindered]
    exact closes
  simp only [check, file, if_true, created, written, seen, closed]

/-- In a buffer that cannot be copied nothing is found. -/
theorem verdict_of_not_copies (file : d.uri.isFile = true) (proper : fs.here.Proper)
    (blocked : ¬ sur.Copies fs) :
    ∃ failure, ((Target.buffer d).check sur fs).verdict = .error failure := by
  have proper_root : (sur.root fs).Proper := Path.proper_goal proper sur.temporary
  simp only [check, file, if_true]
  cases created : sur.create fs with
  | error fault => exact ⟨_, rfl⟩
  | ok made =>
      obtain ⟨w, made⟩ := made
      simp only
      obtain ⟨under, alike, here, empty⟩ := Surroundings.fresh_of_create created
      cases written : sur.write made w d.text with
      | error fault => exact ⟨_, rfl⟩
      | ok filled =>
          simp only
          split
          · exact ⟨_, rfl⟩
          · rename_i left closed
            refine absurd ?_ blocked
            obtain ⟨no_create, creates⟩ := Surroundings.create_eq_ok created
            obtain ⟨no_write, writes⟩ := Surroundings.write_eq_ok written
            have no_close := (Surroundings.close_eq_ok closed).1
            obtain ⟨acceptable, passable⟩ :=
              (writeInput_isOk_iff under proper_root here empty).mp ⟨filled, writes⟩
            refine ⟨?_, ?_, fun v there => acceptable_inputPath under there acceptable,
              alike.symm.passable passable⟩
            · cases refusals : sur.hindrances
              rw [refusals] at no_create no_write no_close
              simp_all [Hindrances.none]
            · exact (create_cases creates).1

/-- A validation finds the same in files that differ in workspaces only. -/
theorem diagnostics_check_congr {t : Target} (alike : Alike (sur.root fs) fs fs')
    (proper : fs.here.Proper) (passes : sur.temporary.Passes fs.here (sur.root fs))
    (apart : ∀ bytes, t.uri.filePath? = some bytes → (Path.mk bytes).Passes fs.here (sur.root fs))
    (room : t.Fits sur fs) (room' : t.Fits sur fs') (related : Option Uri) :
    Verdict.diagnostics related (t.check sur fs).verdict =
      Verdict.diagnostics related (t.check sur fs').verdict := by
  cases t with
  | buffer d =>
      cases file : d.uri.isFile with
      | false =>
          have other : (Target.buffer d).uri.isFile = false := file
          rw [check_of_not_isFile sur fs other, check_of_not_isFile sur fs' other]
      | true =>
          have proper' : fs'.here.Proper := alike.here ▸ proper
          by_cases copies : sur.Copies fs
          · rw [verdict_of_copies file proper room copies,
              verdict_of_copies file proper' room' (copies.congr alike passes)]
          · have blocked : ¬ sur.Copies fs' := by
              intro copies'
              have same : sur.root fs' = sur.root fs := Surroundings.root_congr alike.here
              refine copies (copies'.congr ?_ ?_)
              · rw [same]
                exact alike.symm
              · rw [same, alike.here]
                exact passes
            obtain ⟨failure, fails⟩ := verdict_of_not_copies file proper copies
            obtain ⟨failure', fails'⟩ := verdict_of_not_copies file proper' blocked
            rw [fails, fails']
            rfl
  | file u =>
      simp only [check]
      split
      · split
        · rfl
        · rename_i bytes named
          rw [alike.seen (apart bytes named)]
      · rfl
  | nothing u => rfl

/-- A validation changes nothing outside workspaces. -/
theorem alike_check (t : Target) (proper : fs.here.Proper)
    (spares : ∀ u, t = .file u → sur.Spares) : Alike (sur.root fs) fs (t.check sur fs).files := by
  have proper_root : (sur.root fs).Proper := Path.proper_goal proper sur.temporary
  have refl := Alike.refl (sur.root fs) fs
  cases t with
  | buffer d =>
      simp only [check]
      split
      · cases created : sur.create fs with
        | error fault => exact refl
        | ok made =>
            obtain ⟨w, made⟩ := made
            simp only
            obtain ⟨under, alike, -, -⟩ := Surroundings.fresh_of_create created
            cases written : sur.write made w d.text with
            | error fault => exact alike.trans (under.alike (sameOutside_drop under proper_root))
            | ok filled =>
                have wrote := (Surroundings.write_eq_ok written).2
                have later (conduct : Conduct) : Alike (sur.root fs) fs
                    (Validator.settle filled w.inputPath conduct) :=
                  (alike.trans (under.alike (sameOutside_writeInput under proper_root wrote))).trans
                    (under.alike (sameOutside_settle under proper_root))
                simp only
                split
                · exact later _
                · rename_i left closed
                  have closed := (Surroundings.close_eq_ok closed).2
                  exact (later _).trans (under.alike (sameOutside_close under proper_root closed))
      · exact refl
  | file u =>
      simp only [check]
      split
      · split
        · exact refl
        · rw [Surroundings.settle_of_spares (spares u rfl)]
          exact refl
      · exact refl
  | nothing u => exact refl

/-! ## Validations one after the other -/

variable {u : Uri}

/-- There is room for every copy of a document, as they are made one after the other. -/
def AllFit (sur : Surroundings) (u : Uri) : Files → List Target → Prop
  | _, [] => True
  | fs, t :: rest => (t.uri = u → t.Fits sur fs) ∧ AllFit sur u (t.check sur fs).files rest

theorem alike_checkAll {ts : List Target} (proper : fs.here.Proper)
    (spares : ∀ u, Target.file u ∈ ts → sur.Spares) :
    Alike (sur.root fs) fs (filesAfter fs (checkAll sur fs ts)) := by
  induction ts generalizing fs with
  | nil => exact .refl _ fs
  | cons t rest ih =>
      have first := alike_check t proper fun u this => spares u (this ▸ List.mem_cons_self)
      have same : sur.root (t.check sur fs).files = sur.root fs := Surroundings.root_congr first.here
      have later : Alike (sur.root (t.check sur fs).files) (t.check sur fs).files
          (filesAfter (t.check sur fs).files (checkAll sur (t.check sur fs).files rest)) :=
        ih (first.here ▸ proper) fun u member => spares u (List.mem_cons_of_mem _ member)
      rw [same] at later
      exact first.trans later

/-- Each validation of a document finds files that differ in workspaces only, and room. -/
theorem mem_checkAll_alike {ts : List Target} {tc : Target × Check} (proper : fs.here.Proper)
    (spares : ∀ u, Target.file u ∈ ts → sur.Spares) (room : AllFit sur u fs ts)
    (member : tc ∈ checkAll sur fs ts) (this : tc.1.uri = u) :
    ∃ fs', Alike (sur.root fs) fs fs' ∧ tc.1.Fits sur fs' ∧ tc.2 = tc.1.check sur fs' := by
  induction ts generalizing fs with
  | nil => cases member
  | cons t rest ih =>
      rcases List.mem_cons.mp member with rfl | later
      · exact ⟨fs, .refl _ fs, room.1 this, rfl⟩
      · have first := alike_check t proper fun u this => spares u (this ▸ List.mem_cons_self)
        have same : sur.root (t.check sur fs).files = sur.root fs :=
          Surroundings.root_congr first.here
        obtain ⟨fs', alike, fits, went⟩ := ih (first.here ▸ proper)
          (fun u member => spares u (List.mem_cons_of_mem _ member)) room.2 later
        rw [same] at alike
        exact ⟨fs', first.trans alike, fits, went⟩

end Target

/-- Lists of pairs with the same keys are mapped alike if equal keys are. -/
theorem map_eq_of_keys {κ β γ : Type} {f g : κ × β → γ} {l l' : List (κ × β)}
    (keys : l.map Prod.fst = l'.map Prod.fst)
    (same : ∀ a ∈ l, ∀ b ∈ l', a.1 = b.1 → f a = g b) : l.map f = l'.map g := by
  induction l generalizing l' with
  | nil =>
      cases l' with
      | nil => rfl
      | cons b l' => cases keys
  | cons a l ih =>
      cases l' with
      | nil => cases keys
      | cons b l' =>
          rw [List.map_cons, List.map_cons, List.cons.injEq] at keys
          rw [List.map_cons, List.map_cons, same a List.mem_cons_self b List.mem_cons_self keys.1,
            ih keys.2 fun x inside y inside' =>
              same x (List.mem_cons_of_mem _ inside) y (List.mem_cons_of_mem _ inside')]

namespace Target

variable {sur : Surroundings} {fs fs' : Files} {u : Uri} {ts ts' : List Target}

theorem filter_checkAll (sur : Surroundings) (fs : Files) (keep : Target → Bool) (ts : List Target) :
    ((checkAll sur fs ts).filter fun tc => keep tc.1).map Prod.fst = ts.filter keep := by
  calc ((checkAll sur fs ts).filter fun tc => keep tc.1).map Prod.fst
      = ((checkAll sur fs ts).map Prod.fst).filter keep := by
        rw [List.filter_map]
        rfl
    _ = ts.filter keep := by rw [map_fst_checkAll]

/-- What is published of a document depends on its own targets only. -/
theorem publications_congr {s t : Service} (alike : Alike (sur.root fs) fs fs')
    (proper : fs.here.Proper) (passes : sur.temporary.Passes fs.here (sur.root fs))
    (apart : ∀ bytes, u.filePath? = some bytes → (Path.mk bytes).Passes fs.here (sur.root fs))
    (related : Work.relatedTo s u = Work.relatedTo t u)
    (own : ts.filter (fun x => x.uri = u) = ts'.filter fun x => x.uri = u)
    (spares : ∀ v, Target.file v ∈ ts → sur.Spares)
    (spares' : ∀ v, Target.file v ∈ ts' → sur.Spares)
    (room : AllFit sur u fs ts) (room' : AllFit sur u fs' ts') :
    (((checkAll sur fs ts).map fun tc => tc.1.publication s tc.2.verdict).filter
        fun p => p.uri = u) =
      ((checkAll sur fs' ts').map fun tc => tc.1.publication t tc.2.verdict).filter
        fun p => p.uri = u := by
  have proper' : fs'.here.Proper := alike.here ▸ proper
  have same_root : sur.root fs' = sur.root fs := Surroundings.root_congr alike.here
  rw [List.filter_map, List.filter_map]
  refine map_eq_of_keys ?_ ?_
  · exact (filter_checkAll sur fs (fun x => x.uri = u) ts).trans
      (own.trans (filter_checkAll sur fs' (fun x => x.uri = u) ts').symm)
  · intro a inside b inside' same
    obtain ⟨inside, this⟩ := List.mem_filter.mp inside
    have this : a.1.uri = u := by simpa [publication] using this
    have inside' := (List.mem_filter.mp inside').1
    obtain ⟨found, near, fits, went⟩ := mem_checkAll_alike proper spares room inside this
    obtain ⟨found', near', fits', went'⟩ :=
      mem_checkAll_alike proper' spares' room' inside' (same ▸ this)
    rw [same_root] at near'
    have between : Alike (sur.root fs) found found' := near.symm.trans (alike.trans near')
    have root_found : sur.root found = sur.root fs := Surroundings.root_congr near.here
    have finds : Verdict.diagnostics (Work.relatedTo t u) (a.1.check sur found).verdict =
        Verdict.diagnostics (Work.relatedTo t u) (a.1.check sur found').verdict := by
      refine diagnostics_check_congr ?_ (near.here ▸ proper) ?_ ?_ fits (same ▸ fits') _
      · exact root_found ▸ between
      · rw [root_found, near.here]
        exact passes
      · rw [root_found, near.here, this]
        exact apart
    rw [publication, publication, went, went', ← same, this, related, finds]

end Target

end Kickstart
