/-
# Kickstart.Proofs.Files.Scratch -- workspaces keep to themselves

A workspace is made at a free place under the root (`create_eq_ok`), and all workspaces
under one root lie apart (`Under.apart`).  Writing the buffer, a run on it, closing and
dropping change nothing outside the workspace (`sameOutside_writeInput`,
`sameOutside_settle`, `sameOutside_close`, `sameOutside_drop`), and the buffer is read
back as it was written (`writeInput_eq_ok`).
-/
import Kickstart.Proofs.Files.Tree
import Kickstart.Proofs.Text.Utf8
import Kickstart.Scratch
import Kickstart.Validator.Basic

namespace Kickstart

set_option autoImplicit false

namespace Scratch

open Files

/-! ## Names -/

theorem encode_digit {k : Nat} (digit : k < 16) :
    (Text.encodeChar (Nat.digitChar k)).length = 1 ∧
      Path.slash ∉ Text.encodeChar (Nat.digitChar k) ∧ 0 ∉ Text.encodeChar (Nat.digitChar k) := by
  revert k
  decide

/-- The bytes of the digits of a name. -/
theorem encode_sixDigits (n : Nat) :
    (Text.encode (sixDigits n)).length = 6 ∧ Path.slash ∉ Text.encode (sixDigits n) ∧
      0 ∉ Text.encode (sixDigits n) := by
  have digit (m : Nat) := encode_digit (Nat.mod_lt m (show 0 < 16 by decide))
  refine ⟨?_, ?_, ?_⟩ <;> simp [sixDigits, Text.encode, List.range_succ, digit]

theorem name_eq (n : Nat) : name n = stem.encode ++ Text.encode (sixDigits n) := by
  simp [name, Text.encode]

theorem length_name (n : Nat) : (name n).length = 19 := by
  rw [name_eq, List.length_append, (encode_sixDigits n).1]
  rfl

theorem isName_name (n : Nat) : Path.IsName (name n) := by
  have length := length_name n
  refine ⟨?_, ?_, ?_, ?_⟩
  · intro empty
    simp [empty] at length
  · rw [name_eq, List.mem_append, not_or]
    exact ⟨by decide, (encode_sixDigits n).2.1⟩
  · intro dot
    simp [dot, Path.dot] at length
  · intro dots
    simp [dots, Path.dotDot] at length

theorem nul_not_mem_name (n : Nat) : 0 ∉ name n := by
  rw [name_eq, List.mem_append, not_or]
  exact ⟨by decide, (encode_sixDigits n).2.2⟩

theorem isName_inputName : Path.IsName inputName := by decide

/-! ## Places -/

/-- The workspace is a child of the root, with one of the names for workspaces. -/
def Under (root : Place) (w : Scratch) : Prop := ∃ n, w.place = root ++ [name n]

variable {root : Place} {w : Scratch} {fs fs' : Files}

theorem Under.ne_nil (under : w.Under root) : w.place ≠ [] := by
  obtain ⟨n, place⟩ := under
  simp [place]

theorem Under.proper (under : w.Under root) (proper : root.Proper) : w.place.Proper := by
  obtain ⟨n, place⟩ := under
  intro x member
  rw [place] at member
  rcases List.mem_append.mp member with above | last
  · exact proper x above
  · exact List.mem_singleton.mp last ▸ isName_name n

theorem Under.proper_input (under : w.Under root) (proper : root.Proper) : w.inputPlace.Proper := by
  intro x member
  rcases List.mem_append.mp member with above | last
  · exact under.proper proper x above
  · exact List.mem_singleton.mp last ▸ isName_inputName

theorem inputPlace_ne_nil (w : Scratch) : w.inputPlace ≠ [] := by simp [inputPlace]

theorem place_prefix_inputPlace (w : Scratch) : w.place <+: w.inputPlace :=
  List.prefix_append w.place [inputName]

/-- Workspaces under one root lie apart: nothing on the way to one's input is in another. -/
theorem Under.apart {v : Scratch} (here : w.Under root) (there : v.Under root)
    (other : v ≠ w) {q : Place} (on_way : q <+: w.inputPlace) : ¬ v.place <+: q := by
  intro inside
  obtain ⟨n, here⟩ := here
  obtain ⟨m, there⟩ := there
  have both : v.place <+: w.place ++ [inputName] := inside.trans on_way
  have length : v.place.length = w.place.length := by simp [here, there]
  have same : v.place = w.place := by
    have start := List.prefix_of_prefix_length_le both (List.prefix_append w.place [inputName])
      (Nat.le_of_eq length)
    exact start.eq_of_length length
  obtain ⟨v⟩ := v
  obtain ⟨w⟩ := w
  exact other (congrArg Scratch.mk same)

/-! ## Making a workspace -/

theorem get?_of_isFree {p q : Place} (free : isFree fs p = true) (below : p ≠ []) (inside : p <+: q) :
    fs.get? q = none := by
  have filled : q ≠ [] := by
    rintro rfl
    exact below (List.prefix_nil.mp inside)
  unfold isFree at free
  rw [Files.get?, if_neg filled, List.lookup_eq_none_iff]
  intro x member
  have outside := List.all_eq_true.mp free x member
  rw [bne_iff_ne]
  rintro rfl
  simp [Place.within_iff.mpr inside] at outside

theorem under_of_freePlace? {seed : Nat} {place : Place} (free : freePlace? fs root seed = some place) :
    Under root ⟨place⟩ := by
  obtain ⟨n, -, named⟩ := List.mem_map.mp (List.mem_of_find?_eq_some free)
  exact ⟨seed + n, named.symm⟩

/-- A workspace is made at a free place under the root, if the system finds its path good. -/
theorem create_cases {path : Path} {seed : Nat} (made : create fs path seed = .ok (w, fs')) :
    fs.canonical path = .ok (path.goal fs.here) ∧
      freePlace? fs (path.goal fs.here) seed = some w.place ∧
      (∃ spot, fs.locate (.ofPlace w.place) = .ok spot) ∧ fs' = fs.put w.place .directory := by
  unfold create at made
  cases found : fs.canonical path with
  | error fault =>
      rw [found] at made
      cases made
  | ok root =>
      obtain rfl := place_of_canonical found
      rw [found] at made
      simp only [bind, Except.bind] at made
      split at made
      · cases made
      · rename_i place free
        split at made
        · rename_i spot reaches
          obtain ⟨rfl, rfl⟩ := Prod.mk.inj (Except.ok.inj made)
          exact ⟨rfl, free, ⟨spot, reaches⟩, rfl⟩
        · cases made

/-- A new workspace lies under the root, where nothing was before, and nothing else changes. -/
theorem create_eq_ok {path : Path} {seed : Nat} (made : create fs path seed = .ok (w, fs')) :
    w.Under (path.goal fs.here) ∧ fs' = fs.put w.place .directory ∧
      ∀ q, w.place <+: q → fs.get? q = none := by
  obtain ⟨-, free, -, put⟩ := create_cases made
  have under : w.Under (path.goal fs.here) := under_of_freePlace? free
  exact ⟨under, put, fun q inside => get?_of_isFree (List.find?_some free) under.ne_nil inside⟩

/-! ## The input file -/

variable {text : Text} {conduct : Conduct}

theorem goal_inputPath (here : Place) (under : w.Under root) (proper : root.Proper) :
    w.inputPath.goal here = w.inputPlace :=
  Path.goal_ofPlace here (under.proper_input proper) w.inputPlace_ne_nil

/-- The buffer can be read where it was written. -/
theorem writeInput_eq_ok (under : w.Under root) (proper : root.Proper)
    (written : writeInput fs w text = .ok fs') :
    fs'.readText? w.inputPath = some text ∧
      ∃ executable, fs' = fs.put w.inputPlace (.file text.encode executable) := by
  obtain ⟨executable, put, reads⟩ := write_eq_ok written
  rw [goal_inputPath fs.here under proper] at put
  refine ⟨?_, executable, put⟩
  rw [readText?, reads]
  exact Text.decode?_encode text

theorem sameOutside_writeInput (under : w.Under root) (proper : root.Proper)
    (written : writeInput fs w text = .ok fs') : SameOutside w.place fs fs' := by
  obtain ⟨-, executable, rfl⟩ := writeInput_eq_ok under proper written
  exact sameOutside_put w.place_prefix_inputPlace

theorem get?_writeInput (under : w.Under root) (proper : root.Proper)
    (written : writeInput fs w text = .ok fs') : fs'.get? w.place = fs.get? w.place := by
  obtain ⟨-, executable, rfl⟩ := writeInput_eq_ok under proper written
  exact get?_put_ne (by simp [inputPlace])

/-! ## Runs in a workspace -/

/-- What can be read at a path is what a validator sees there. -/
theorem seen_of_readText? {path : Path} (reads : fs.readText? path = some text) :
    Validator.seen fs path = text := by
  rw [Validator.seen, reads, Option.getD_some]

theorem recordOf_of_readText? {path : Path} (reads : fs.readText? path = some text) :
    Validator.recordOf fs path = ⟨path.text, true, some text⟩ := by
  have there : fs.exists? path = true := by
    unfold Files.exists?
    cases found : fs.canonical path with
    | ok place => rfl
    | error fault =>
        rw [readText?, Files.read, found] at reads
        cases reads
  rw [Validator.recordOf, there, reads]

theorem directoryOf?_inputPath (under : w.Under root) (proper : root.Proper) {directory : Place}
    (found : Validator.directoryOf? fs w.inputPath = some directory) : directory = w.place := by
  have parent : w.inputPath.parent? = some (.ofPlace w.place) := by
    rw [inputPath, Path.parent?_ofPlace (under.proper_input proper) w.inputPlace_ne_nil, inputPlace,
      List.dropLast_concat]
  unfold Validator.directoryOf? at found
  rw [parent, Option.map_some] at found
  split at found
  · rename_i place leads
    have goal := place_of_canonical (Option.some.inj leads)
    rw [Path.goal_ofPlace _ (under.proper proper) under.ne_nil] at goal
    split at found
    · exact (Option.some.inj found).symm.trans goal
    · cases found
  · cases found

theorem addFiles_spec (directory : Place) (fs : Files) (files : List (Name × Bytes)) :
    SameOutside directory fs (Validator.addFiles directory fs files) ∧
      (Validator.addFiles directory fs files).get? directory = fs.get? directory := by
  induction files generalizing fs with
  | nil => exact ⟨.refl directory fs, rfl⟩
  | cons file rest ih =>
      obtain ⟨name, content⟩ := file
      obtain ⟨same, keeps⟩ := ih (fs.put (directory ++ [name]) (.file content false))
      refine ⟨(sameOutside_put (List.prefix_append directory [name])).trans same, ?_⟩
      rw [Validator.addFiles, keeps, get?_put_ne (by simp)]

theorem here_settle (path : Path) : (Validator.settle fs path conduct).here = fs.here := by
  unfold Validator.settle
  split
  · rfl
  · simp only
    split
    · exact (addFiles_spec _ fs conduct.leaves).1.here
    · exact (addFiles_spec _ fs conduct.leaves).1.here

/-- A run in a workspace changes nothing outside it. -/
theorem sameOutside_settle (under : w.Under root) (proper : root.Proper) :
    SameOutside w.place fs (Validator.settle fs w.inputPath conduct) := by
  unfold Validator.settle
  split
  · exact .refl _ fs
  · rename_i directory found
    obtain rfl := directoryOf?_inputPath under proper found
    have added := (addFiles_spec w.place fs conduct.leaves).1
    simp only
    split
    · exact added.trans (sameOutside_removeTree under.ne_nil)
    · exact added

/-- The directory stays if the run does not remove it. -/
theorem get?_settle (under : w.Under root) (proper : root.Proper)
    (stays : conduct.removesDirectory = false) :
    (Validator.settle fs w.inputPath conduct).get? w.place = fs.get? w.place := by
  unfold Validator.settle
  split
  · rfl
  · rename_i directory found
    obtain rfl := directoryOf?_inputPath under proper found
    simp only [stays, Bool.false_eq_true, if_false]
    exact (addFiles_spec w.place fs conduct.leaves).2

/-- A run leaves the directory or removes it. -/
theorem get?_settle_cases (under : w.Under root) (proper : root.Proper)
    (before : fs.get? w.place = some .directory) :
    (Validator.settle fs w.inputPath conduct).get? w.place = some .directory ∨
      (Validator.settle fs w.inputPath conduct).get? w.place = none := by
  cases stays : conduct.removesDirectory with
  | false => exact .inl ((get?_settle under proper stays).trans before)
  | true =>
      unfold Validator.settle
      split
      · exact .inl before
      · rename_i directory found
        obtain rfl := directoryOf?_inputPath under proper found
        simp only [stays, if_true]
        rw [get?_removeTree under.ne_nil, Place.within_iff.mpr (List.prefix_refl w.place)]
        exact .inr rfl

/-! ## Removing a workspace -/

theorem removeTree_clear (fs : Files) (p : Place) : (fs.clear p).removeTree p = fs.removeTree p := by
  simp only [removeTree, clear, List.filter_filter]
  congr 2
  funext x
  cases p.within x.1 <;> simp

/-- A directory that its path leads to is removed with all it holds. -/
theorem removeDirectory_ofPlace {p : Place} (proper : p.Proper) (below : p ≠ [])
    (leads : fs.canonical (.ofPlace p) = .ok p) (directory : fs.get? p = some .directory) :
    fs.removeDirectory (.ofPlace p) = (fs.removeTree p, .ok ()) := by
  -- clearing the directory leaves the way to it alone
  have still : (fs.clear p).canonical (.ofPlace p) = .ok p := by
    rw [← leads]
    refine canonical_congr rfl fun q on_way => ?_
    rw [get?_clear, if_neg]
    rintro ⟨other, inside⟩
    have above : q <+: p := Path.trail_ofPlace proper below on_way
    have within : p <+: q := Place.within_iff.mp inside
    exact other (above.eq_of_length_le within.length_le)
  have last : ∃ name, (Path.ofPlace p).given.getLast? = some name ∧ Path.IsName name :=
    ⟨p.getLast below, by rw [Path.given_ofPlace proper, List.getLast?_eq_some_getLast below],
      proper _ (List.getLast_mem below)⟩
  obtain ⟨name, ends, is_name⟩ := last
  have removed : (fs.clear p).removeEmpty (.ofPlace p) = .ok (fs.removeTree p) := by
    unfold removeEmpty
    rw [still]
    simp only [bind, Except.bind, ends, if_neg is_name.2.2.1, if_neg is_name.2.2.2, removeTree_clear]
    rfl
  unfold removeDirectory
  rw [leads]
  simp only [directory, removed]

/-- What is closed is removed, or was gone. -/
theorem close_eq_ok (under : w.Under root) (proper : root.Proper) (closed : close fs w = .ok fs') :
    fs' = fs.removeTree w.place ∨ fs' = fs := by
  have proper := under.proper proper
  unfold close destroy at closed
  cases leads : fs.canonical (.ofPlace w.place) with
  | error fault =>
      have nothing : fs.removeDirectory (.ofPlace w.place) = (fs, .error fault) := by
        rw [removeDirectory, leads]
      rw [nothing] at closed
      cases gone : fault.isNotFound with
      | true => exact .inr (by simpa [gone] using closed.symm)
      | false => simp [gone] at closed
  | ok place =>
      obtain rfl : place = w.place :=
        (place_of_canonical leads).trans (Path.goal_ofPlace _ proper under.ne_nil)
      by_cases directory : fs.get? w.place = some .directory
      · rw [removeDirectory_ofPlace proper under.ne_nil leads directory] at closed
        exact .inl (Except.ok.inj closed).symm
      · have refused : fs.removeDirectory (.ofPlace w.place) = (fs, .error (.system .notDirectory)) := by
          simp only [removeDirectory, leads]
        rw [refused] at closed
        cases closed

theorem sameOutside_close (under : w.Under root) (proper : root.Proper)
    (closed : close fs w = .ok fs') : SameOutside w.place fs fs' := by
  rcases close_eq_ok under proper closed with rfl | rfl
  · exact sameOutside_removeTree under.ne_nil
  · exact .refl _ _

theorem sameOutside_drop (under : w.Under root) (proper : root.Proper) :
    SameOutside w.place fs (drop fs w) := by
  unfold drop
  split
  · exact sameOutside_close under proper ‹_›
  · exact .refl _ fs

end Scratch

end Kickstart
