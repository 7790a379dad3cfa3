/-
# Kickstart.Proofs.Files.Gone -- removing what is gone

What removals leave of files is `Thinned`: every place is as it was, or nothing is there any
more and nothing below it.

A way is clear if nothing can stop it but a name that is missing (`Files.Clear`).  Ways that
were followed once stay clear whatever is removed (`Thinned.clear`), and at the end of a clear
way there is nothing to complain about: what is gone counts as removed (`destroy_of_gone`).
So removing twice is removing once (`destroy_destroy`), whether the first time went well, failed
or emptied a directory that it could not remove.
-/
import Kickstart.Proofs.Files.Isolation

namespace Kickstart

set_option autoImplicit false

/-- A path that ends on a name leads below the root. -/
theorem Path.goal_ne_nil {path : Path} {here : Place} {last : Name}
    (ends : path.given.getLast? = some last) (no_dot : last ≠ Path.dot)
    (no_dots : last ≠ Path.dotDot) : path.goal here ≠ [] := by
  obtain ⟨front, given⟩ := List.getLast?_eq_some_iff.mp ends
  have goal : path.goal here = (path.origin here).descend front ++ [last] := by
    unfold Path.goal Path.names
    rw [given]
    split
    · simp [Place.descend, Place.enter, no_dot, no_dots]
    · simp [Place.descend, Place.enter, no_dot, no_dots]
  simp [goal]

namespace Files

variable {fs fs' : Files} {p q top start : Place} {path : Path}

/-! ## What removals leave -/

/-- Every place is as it was, or nothing is there any more, nor below it. -/
structure Thinned (fs fs' : Files) : Prop where
  here : fs'.here = fs.here
  entry : ∀ q, fs'.get? q = fs.get? q ∨ fs'.get? q = none
  below : ∀ p q, q <+: p → fs'.get? q = none → fs.get? q = none ∨ fs'.get? p = none

theorem Thinned.refl (fs : Files) : Thinned fs fs :=
  ⟨rfl, fun _ => .inl rfl, fun _ _ _ gone => .inl gone⟩

theorem thinned_removeTree (fs : Files) (top : Place) : Thinned fs (fs.removeTree top) := by
  refine ⟨rfl, fun q => ?_, fun p q above gone => ?_⟩
  · by_cases root : q = []
    · rw [root]
      exact .inl rfl
    · rw [get?_removeTree_of_ne root]
      split
      · exact .inr rfl
      · exact .inl rfl
  · have named : q ≠ [] := by
      rintro rfl
      cases gone
    have deeper : p ≠ [] := by
      rintro rfl
      exact named (List.prefix_nil.mp above)
    rw [get?_removeTree_of_ne named] at gone
    rw [get?_removeTree_of_ne deeper]
    split at gone
    · rename_i inside
      have within := (Place.within_iff.mp inside).trans above
      exact .inr (if_pos (Place.within_iff.mpr within))
    · exact .inl gone

theorem thinned_clear (fs : Files) (top : Place) : Thinned fs (fs.clear top) := by
  refine ⟨rfl, fun q => ?_, fun p q above gone => ?_⟩
  · rw [get?_clear]
    split
    · exact .inr rfl
    · exact .inl rfl
  · rw [get?_clear] at gone
    split at gone
    · rename_i inside
      obtain ⟨strict, within⟩ := inside
      have within := Place.within_iff.mp within
      have other : p ≠ top := by
        rintro rfl
        exact strict (above.eq_of_length_le within.length_le)
      rw [get?_clear]
      exact .inr (if_pos ⟨other, Place.within_iff.mpr (within.trans above)⟩)
    · exact .inl gone

/-! ## Clear ways -/

/-- Nothing on the way but missing names: every place on it is a directory or not there, and no
name is too long. -/
def Clear (fs : Files) (start : Place) : List Name → Prop
  | [] => True
  | name :: rest =>
    (fs.get? start = some .directory ∨ fs.get? start = none) ∧
      (name = Path.dot ∨ name = Path.dotDot ∨ name.length ≤ longestName) ∧
      Clear fs (start.enter name) rest

/-- A clear way leads to its end, or a name is missing. -/
theorem follow_of_clear {names : List Name} (clear : fs.Clear start names) :
    fs.follow start names = .ok (.taken (start.descend names)) ∨
      (∃ place, fs.follow start names = .ok (.free place)) ∨
      fs.follow start names = .error .notFound := by
  induction names generalizing start with
  | nil => exact .inl rfl
  | cons name rest ih =>
      obtain ⟨directory | absent, short, later⟩ := clear
      · have goes := ih later
        rw [follow_cons, directory]
        simp only
        split
        · exact goes
        · rename_i no_dots
          rw [not_or] at no_dots
          have fits : ¬ longestName < name.length :=
            Nat.not_lt.mpr ((short.resolve_left no_dots.1).resolve_left no_dots.2)
          rw [if_neg fits]
          split
          · exact goes
          · split
            · exact .inr (.inl ⟨_, rfl⟩)
            · exact .inr (.inr rfl)
      · rw [follow_cons, absent]
        exact .inr (.inr rfl)

/-- What was followed once is clear, whatever has been removed since. -/
theorem Thinned.clear {names : List Name} {place : Place} (thinned : Thinned fs fs')
    (found : fs.follow start names = .ok (.taken place)) : fs'.Clear start names := by
  induction names generalizing start with
  | nil => trivial
  | cons name rest ih =>
      rw [follow_cons] at found
      split at found
      · cases found
      · cases found
      · rename_i directory
        refine ⟨?_, ?_⟩
        · rcases thinned.entry start with same | gone
          · exact .inl (same.trans directory)
          · exact .inr gone
        · split at found
          · rename_i dots
            exact ⟨dots.imp_right .inl, ih found⟩
          · split at found
            · cases found
            · rename_i short
              split at found
              · exact ⟨.inr (.inr (Nat.not_lt.mp short)), ih found⟩
              · split at found <;> cases found

/-- A way straight down is clear if there is nothing but directories on it. -/
theorem clear_of_proper {names : List Name} (proper : Place.Proper names)
    (short : ∀ name ∈ names, name.length ≤ longestName)
    (open_way : ∀ q, start <+: q → q <+: start ++ names →
      fs.get? q = some .directory ∨ fs.get? q = none) : fs.Clear start names := by
  induction names generalizing start with
  | nil => trivial
  | cons name rest ih =>
      have is_name := proper name List.mem_cons_self
      have next : start ++ name :: rest = start ++ [name] ++ rest := by simp
      refine ⟨open_way start (List.prefix_refl start) (List.prefix_append start _),
        .inr (.inr (short name List.mem_cons_self)), ?_⟩
      rw [Place.enter_of_isName start is_name]
      refine ih (fun n member => proper n (List.mem_cons_of_mem _ member))
        (fun n member => short n (List.mem_cons_of_mem _ member)) fun q below above => ?_
      exact open_way q ((List.prefix_append start [name]).trans below) (next ▸ above)

/-- At the end of a clear way there is something, or nothing is found. -/
theorem canonical_of_clear (acceptable : path.Acceptable)
    (clear : fs.Clear (path.origin fs.here) path.names) :
    fs.canonical path = .ok (path.goal fs.here) ∨
      fs.canonical path = .error (.system .notFound) := by
  rcases follow_of_clear clear with reaches | ⟨place, free⟩ | missing
  · have located : fs.locate path = .ok (.taken (path.goal fs.here)) :=
      locate_eq_ok_iff.mpr ⟨acceptable, reaches⟩
    rw [canonical, located]
    simp only [bind, Except.bind]
    split
    · exact .inl rfl
    · exact .inr rfl
  · rw [canonical, locate_eq_ok_iff.mpr ⟨acceptable, free⟩]
    exact .inr rfl
  · obtain ⟨filled, clean, short⟩ := acceptable
    have no_nul : ¬ path.bytes.contains 0 = true := fun nul => clean (List.contains_iff_mem.mp nul)
    unfold Path.origin at missing
    rw [canonical, locate, if_neg filled, if_neg no_nul, if_neg (Nat.not_lt.mpr short), missing]
    exact .inr rfl

/-- What was there once is found where it was, or nothing is found. -/
theorem Thinned.canonical {place : Place} (thinned : Thinned fs fs')
    (found : fs.canonical path = .ok place) :
    fs'.canonical path = .ok place ∨ fs'.canonical path = .error (.system .notFound) := by
  obtain ⟨acceptable, follows⟩ := locate_eq_ok_iff.mp (canonical_eq_ok_iff.mp found).1
  have clear : fs'.Clear (path.origin fs'.here) path.names := by
    rw [thinned.here]
    exact thinned.clear follows
  rw [place_of_canonical found, ← thinned.here]
  exact canonical_of_clear acceptable clear

end Files

namespace Scratch

open Files

variable {fs fs' : Files} {path : Path} {place : Place}

/-! ## Removing directories -/

/-- What is not found counts as removed. -/
theorem destroy_of_notFound (missing : fs.canonical path = .error (.system .notFound)) :
    destroy fs path = (fs, .ok ()) := by
  rw [destroy, removeDirectory, missing]
  rfl

/-- What was found once and is gone since counts as removed. -/
theorem destroy_of_gone (found : fs.canonical path = .ok place) (thinned : Thinned fs fs')
    (gone : fs'.get? place = none) : destroy fs' path = (fs', .ok ()) := by
  refine destroy_of_notFound ((thinned.canonical found).resolve_left fun still => ?_)
  have there := (canonical_eq_ok_iff.mp still).2
  rw [gone] at there
  cases there

/-- An empty directory is removed where its path leads, and never the root. -/
theorem removeEmpty_eq_ok (removed : fs.removeEmpty path = .ok fs') :
    path.goal fs.here ≠ [] ∧ fs' = fs.removeTree (path.goal fs.here) := by
  unfold removeEmpty at removed
  cases found : fs.canonical path with
  | error fault =>
      rw [found] at removed
      cases removed
  | ok place =>
      obtain rfl := place_of_canonical found
      rw [found] at removed
      simp only [bind, Except.bind] at removed
      split at removed
      · cases removed
      · rename_i last ends
        split at removed
        · cases removed
        · rename_i no_dot
          split at removed
          · cases removed
          · rename_i no_dots
            exact ⟨Path.goal_ne_nil ends no_dot no_dots, (Except.ok.inj removed).symm⟩

/-- A directory is emptied first and then removed; it stays where that is refused. -/
theorem destroy_of_directory (found : fs.canonical path = .ok place)
    (directory : fs.get? place = some .directory) :
    destroy fs path =
      match (fs.clear place).removeEmpty path with
      | .ok removed => (removed, .ok ())
      | .error fault => (fs.clear place, if fault.isNotFound then .ok () else .error fault) := by
  simp only [destroy, removeDirectory, found, directory]
  cases (fs.clear place).removeEmpty path with
  | ok removed => rfl
  | error fault =>
      cases told : fault.isNotFound <;> simp [told]

/-- Nothing changes, or a directory is removed with all it holds, or it is emptied only. -/
theorem destroy_cases (fs : Files) (path : Path) :
    (destroy fs path).1 = fs ∨
      ∃ place, fs.canonical path = .ok place ∧ fs.get? place = some .directory ∧
        (place ≠ [] ∧ destroy fs path = (fs.removeTree place, .ok ()) ∨
          ∃ fault, (fs.clear place).removeEmpty path = .error fault ∧
            destroy fs path =
              (fs.clear place, if fault.isNotFound then .ok () else .error fault)) := by
  cases found : fs.canonical path with
  | error fault =>
      left
      rw [destroy, removeDirectory, found]
  | ok place =>
      by_cases directory : fs.get? place = some .directory
      · refine .inr ⟨place, rfl, directory, ?_⟩
        rw [destroy_of_directory found directory]
        cases emptied : (fs.clear place).removeEmpty path with
        | error fault => exact .inr ⟨fault, rfl, rfl⟩
        | ok removed =>
            obtain ⟨named, rfl⟩ := removeEmpty_eq_ok emptied
            rw [here_clear, ← place_of_canonical found] at named ⊢
            exact .inl ⟨named, by rw [removeTree_clear]⟩
      · left
        simp only [destroy, removeDirectory, found]

theorem thinned_destroy (fs : Files) (path : Path) : Thinned fs (destroy fs path).1 := by
  rcases destroy_cases fs path with same | ⟨place, -, -, ⟨-, removed⟩ | ⟨fault, -, kept⟩⟩
  · rw [same]
    exact .refl fs
  · rw [removed]
    exact thinned_removeTree fs place
  · rw [kept]
    exact thinned_clear fs place

theorem clear_clear (fs : Files) (top : Place) : (fs.clear top).clear top = fs.clear top := by
  simp [Files.clear, List.filter_filter]

/-- Removing twice is removing once: the second time changes nothing and says the same. -/
theorem destroy_destroy (fs : Files) (path : Path) :
    destroy (destroy fs path).1 path = destroy fs path := by
  rcases destroy_cases fs path with
    same | ⟨place, found, directory, ⟨named, removed⟩ | ⟨fault, refused, kept⟩⟩
  · rw [same]
  · rw [removed]
    refine destroy_of_gone found (thinned_removeTree fs place) ?_
    rw [get?_removeTree named, if_pos (Place.within_iff.mpr (List.prefix_refl place))]
  · rw [kept]
    -- the path still leads to the empty directory, or it led through what was in there
    rcases (thinned_clear fs place).canonical found with still | missing
    · have empty : (fs.clear place).get? place = some .directory := by
        rw [get?_clear, if_neg fun strict => strict.1 rfl, directory]
      rw [destroy_of_directory still empty, clear_clear, refused]
    · have absent : (fs.clear place).removeEmpty path = .error (.system .notFound) := by
        rw [removeEmpty, missing]
        rfl
      rw [destroy_of_notFound missing, Except.error.inj (refused.symm.trans absent)]
      rfl

end Scratch

end Kickstart
