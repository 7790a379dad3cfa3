/-
# Kickstart.Proofs.Files.Lifetimes -- workspaces made, used and removed in any order

A `Yard` is the files of a machine and the workspaces that are in use on it.  Anything may
happen in it next (`Yard.Act`): a workspace is made under some root, written to, closed or let
go, a directory is destroyed by its path, or somebody else removes something.  `Yard.Reached`
are the yards that come about this way.

A name that is picked does not exist, and nothing more is asked of it.  Of a workspace in use whose
directory was removed there is nothing to see on the disk, so that its name may be picked once
more, and then two workspaces are at one place (`name_picked_again`).  As long as its directory has
been there ever since it was made (`Use.kept`), nothing is made in its place (`Yard.Apart`).

Every use stays sound (`Use.Sound`): where there is no directory on the way down to its own, nothing
is left of it, and its input file is gone or holds what was written there last.  Removals keep all
of this (`Use.Sound.thinned`), and so does what is put besides (`Use.Sound.put`).  With it ending a
use removes its tree and nothing else (`Use.Sound.close`); it fails only where a file stands in the
way to a directory that is gone (`Files.Blocked`).

`Files` has no links.  The root of a workspace is the place that the dots of its path lead to.
-/
import Kickstart.Proofs.Files.Gone
import Kickstart.Proofs.Files.Removal

namespace Kickstart

set_option autoImplicit false

open Files Scratch

/-- A workspace in use: the root it was made under, the text that was written last to the input
file at its place, and whether its directory has been there ever since it was made. -/
structure Use where
  root : Place
  workspace : Scratch
  written : Option Text
  kept : Bool
  deriving Repr, DecidableEq

namespace Use

/-- Where the workspace is. -/
def place (u : Use) : Place := u.workspace.place

/-- The use after a text was written to the input file of a workspace at a place. -/
def note (p : Place) (text : Text) (u : Use) : Use :=
  if u.place = p then { u with written := some text } else u

/-- The use after a look at its directory. -/
def look (fs : Files) (u : Use) : Use :=
  { u with kept := u.kept && fs.get? u.place = some .directory }

end Use

/-- The files and the workspaces in use, the latest first. -/
structure Yard where
  files : Files
  uses : List Use
  deriving Repr, DecidableEq

namespace Yard

/-- The yard after the files have changed. -/
def now (files : Files) (uses : List Use) : Yard := ⟨files, uses.map (Use.look files)⟩

/-- What may happen.  Workspaces are named by their position among those in use. -/
inductive Act where
  | create (root : Path) (seed : Nat)
  | write (index : Nat) (text : Text)
  | close (index : Nat)
  | drop (index : Nat)
  | destroy (path : Path)
  /-- Somebody else removes what is at a place, and all below it. -/
  | vanish (place : Place)

/-- The yard afterwards.  What fails changes nothing; a workspace that was to be closed is no
longer in use in any case. -/
def act (y : Yard) : Act → Yard
  | .create root seed =>
    match y.files.canonical root, Scratch.create y.files root seed with
    | .ok root, .ok (w, files) => now files (⟨root, w, none, true⟩ :: y.uses)
    | _, _ => y
  | .write index text =>
    match y.uses[index]? with
    | none => y
    | some u =>
      match Scratch.writeInput y.files u.workspace text with
      | .ok files => now files (y.uses.map (Use.note u.place text))
      | .error _ => y
  | .close index =>
    match y.uses[index]? with
    | none => y
    | some u =>
      match Scratch.close y.files u.workspace with
      | .ok files => now files (y.uses.eraseIdx index)
      | .error _ => now y.files (y.uses.eraseIdx index)
  | .drop index =>
    match y.uses[index]? with
    | none => y
    | some u => now (Scratch.drop y.files u.workspace) (y.uses.eraseIdx index)
  | .destroy path => now (Scratch.destroy y.files path).1 y.uses
  | .vanish place => now (y.files.removeTree place) y.uses

/-- The yard comes about from files without workspaces in use. -/
inductive Reached (start : Files) : Yard → Prop
  | start : Reached start ⟨start, []⟩
  | act {y : Yard} (a : Act) : Reached start y → Reached start (y.act a)

end Yard

/-! ## One workspace in use -/

theorem Files.get?_put {fs : Files} {p q : Place} {e : Entry} (below : p ≠ []) :
    (fs.put p e).get? q = if q = p then some e else fs.get? q := by
  split
  · rename_i same
    rw [same, get?_put_self below]
  · exact get?_put_ne ‹_›

/-- A file stands on the way to the place, or there. -/
def Files.Blocked (fs : Files) (p : Place) : Prop :=
  ∃ q, q <+: p ∧ ∃ content executable, fs.get? q = some (.file content executable)

theorem Files.directory_or_none_of_not_blocked {fs : Files} {p q : Place} (free : ¬ fs.Blocked p)
    (above : q <+: p) : fs.get? q = some .directory ∨ fs.get? q = none := by
  match there : fs.get? q with
  | none => exact .inr rfl
  | some .directory => exact .inl rfl
  | some (.file content executable) => exact absurd ⟨q, above, content, executable, there⟩ free

theorem Scratch.inputName_ne_name (n : Nat) : inputName ≠ name n := by
  intro same
  have length := length_name n
  rw [← same] at length
  cases length

/-- No workspace is at the place of an input file. -/
theorem Scratch.Under.ne_input {root p : Place} {w : Scratch} (under : w.Under root) :
    p ++ [inputName] ≠ w.place := by
  obtain ⟨n, place⟩ := under
  intro same
  rw [place] at same
  exact inputName_ne_name n (List.singleton_inj.mp (List.append_inj_right' same rfl))

namespace Use

variable {fs fs' : Files} {u : Use}

@[simp] theorem kept_look :
    (u.look fs).kept = (u.kept && fs.get? u.place = some .directory) := rfl

@[simp] theorem place_note {p : Place} {text : Text} : (u.note p text).place = u.place := by
  unfold note
  split <;> rfl

@[simp] theorem kept_note {p : Place} {text : Text} : (u.note p text).kept = u.kept := by
  unfold note
  split <;> rfl

/-- A use that looks at a directory that is there is what it was. -/
theorem look_of_there (there : u.kept = true → fs.get? u.place = some .directory) :
    u.look fs = u := by
  obtain ⟨root, w, written, kept⟩ := u
  cases kept with
  | false => rfl
  | true => simp [look, there rfl]

/-- How it stands with a workspace in use.  Its directory may be gone. -/
structure Sound (fs : Files) (u : Use) : Prop where
  under : u.workspace.Under u.root
  proper : u.root.Proper
  acceptable : (Path.ofPlace u.place).Acceptable
  short : ∀ name ∈ u.place, name.length ≤ longestName
  whole : ∀ q p, q <+: u.place → u.place <+: p → fs.get? q ≠ some .directory → fs.get? p = none
  input : fs.get? u.workspace.inputPlace = none ∨ ∃ text executable, u.written = some text ∧
    fs.get? u.workspace.inputPlace = some (.file (Text.encode text) executable)

theorem Sound.look (sound : u.Sound fs) : (u.look fs').Sound fs := { sound with }

/-- Whatever is removed, a use stays sound. -/
theorem Sound.thinned (sound : u.Sound fs) (thinned : Thinned fs fs') : u.Sound fs' := by
  have still_none {p : Place} (missing : fs.get? p = none) : fs'.get? p = none :=
    (thinned.entry p).elim (fun same => same.trans missing) id
  refine { sound with whole := fun q p above below other => ?_, input := ?_ }
  · rcases thinned.entry q with same | gone
    · exact still_none (sound.whole q p above below (same ▸ other))
    · rcases thinned.below p q (above.trans below) gone with never | missing
      · have never_directory : fs.get? q ≠ some .directory := by simp [never]
        exact still_none (sound.whole q p above below never_directory)
      · exact missing
  · rcases thinned.entry u.workspace.inputPlace with same | gone
    · rw [same]
      exact sound.input
    · exact .inl gone

/-- What is put into a directory, but not at the input file of a use, leaves the use sound: a
directory in any case, a file unless it is put over a directory or at the place of the use. -/
theorem Sound.put {top : Place} {name : Name} {e : Entry} (sound : u.Sound fs)
    (passable : fs.Passable top)
    (harmless : e = .directory ∨
      fs.get? (top ++ [name]) ≠ some .directory ∧ top ++ [name] ≠ u.place)
    (other : top ++ [name] ≠ u.workspace.inputPlace) : u.Sound (fs.put (top ++ [name]) e) := by
  have put_self : (fs.put (top ++ [name]) e).get? (top ++ [name]) = some e :=
    get?_put_self (by simp)
  refine { sound with whole := fun q p above below gone => ?_, input := ?_ }
  · have before : fs.get? q ≠ some .directory := by
      by_cases same : q = top ++ [name]
      · rcases harmless with rfl | ⟨free, -⟩
        · exact absurd (same ▸ put_self) gone
        · rwa [same]
      · rwa [get?_put_ne same] at gone
    rw [get?_put_ne ?_]
    · exact sound.whole q p above below before
    · -- nothing is put below a name that is no directory
      rintro rfl
      rcases List.prefix_concat_iff.mp (above.trans below) with rfl | higher
      · rcases harmless with rfl | ⟨-, aside⟩
        · exact gone put_self
        · exact aside (above.eq_of_length_le below.length_le)
      · exact before (passable.directory q higher)
  · rw [get?_put_ne other.symm]
    exact sound.input

/-- With directories all the way down nothing is missing. -/
theorem sound_of_directories (under : u.workspace.Under u.root) (proper : u.root.Proper)
    (acceptable : (Path.ofPlace u.place).Acceptable)
    (short : ∀ name ∈ u.place, name.length ≤ longestName)
    (way : ∀ q, q <+: u.place → fs.get? q = some .directory)
    (input : fs.get? u.workspace.inputPlace = none ∨ ∃ text executable, u.written = some text ∧
      fs.get? u.workspace.inputPlace = some (.file (Text.encode text) executable)) :
    u.Sound fs :=
  ⟨under, proper, acceptable, short, fun q _ above _ gone => absurd (way q above) gone, input⟩

/-- A workspace that was just made is sound. -/
theorem sound_create {root : Path} {seed : Nat} {w : Scratch} (here : fs.here.Proper)
    (made : Scratch.create fs root seed = .ok (w, fs')) :
    Sound fs' ⟨root.goal fs.here, w, none, true⟩ := by
  obtain ⟨-, -, ⟨spot, reaches⟩, -⟩ := create_cases made
  obtain ⟨under, rfl, absent⟩ := create_eq_ok made
  have proper : (root.goal fs.here).Proper := Path.proper_goal here root
  obtain ⟨acceptable, passable⟩ := passable_of_locate under proper reaches
  have ⟨n, place⟩ := under
  refine sound_of_directories under proper acceptable (fun name member => ?_) (fun q above => ?_)
    (.inl ?_)
  · rw [Use.place, place] at member
    rcases List.mem_append.mp member with old | last
    · exact passable.short name old
    · rw [List.mem_singleton.mp last, length_name]
      decide
  · by_cases same : q = w.place
    · rw [same, get?_put_self under.ne_nil]
    · rw [get?_put_ne same]
      rw [Use.place, place] at above
      exact passable.directory q ((List.prefix_concat_iff.mp above).resolve_left (place ▸ same))
  · rw [get?_put_ne (by simp [inputPlace])]
    exact absent w.inputPlace w.place_prefix_inputPlace

/-- A use that was just written to is sound, with the text on record. -/
theorem Sound.write {text : Text} (sound : u.Sound fs)
    (written : Scratch.writeInput fs u.workspace text = .ok fs') :
    Sound fs' { u with written := some text } := by
  have passable := (passable_of_writeInput sound.under sound.proper written).2
  obtain ⟨-, executable, rfl⟩ := writeInput_eq_ok sound.under sound.proper written
  refine sound_of_directories sound.under sound.proper sound.acceptable sound.short
    (fun q above => ?_) (.inr ⟨text, executable, rfl, get?_put_self u.workspace.inputPlace_ne_nil⟩)
  rw [get?_put_ne ?_]
  · exact passable.directory q above
  · rintro rfl
    have length := above.length_le
    rw [inputPlace, List.length_append, List.length_singleton] at length
    exact Nat.not_succ_le_self _ length

/-- The place of an input file is never a directory. -/
theorem Sound.input_ne_directory (sound : u.Sound fs) :
    fs.get? u.workspace.inputPlace ≠ some .directory := by
  intro directory
  rcases sound.input with absent | ⟨text, executable, -, file⟩
  · cases absent.symm.trans directory
  · cases file.symm.trans directory

/-- Where the directory is gone, nothing is left below it either. -/
theorem Sound.nothing_left (sound : u.Sound fs) (gone : fs.get? u.place ≠ some .directory) :
    fs.removeTree u.place = fs :=
  removeTree_of_absent fun p below =>
    sound.whole u.place p (List.prefix_refl u.place) below gone

/-- The path of a use whose directory is gone leads to nothing, if no file is on the way. -/
theorem Sound.canonical_of_gone (sound : u.Sound fs) (gone : fs.get? u.place ≠ some .directory)
    (free : ¬ fs.Blocked u.place) :
    fs.canonical (.ofPlace u.place) = .error (.system .notFound) := by
  have proper : u.place.Proper := sound.under.proper sound.proper
  have named : u.place ≠ [] := sound.under.ne_nil
  have clear : fs.Clear ((Path.ofPlace u.place).origin fs.here) (Path.ofPlace u.place).names := by
    rw [Path.origin, Path.isAbsolute_ofPlace, if_pos rfl, Path.names_ofPlace proper named]
    exact clear_of_proper proper sound.short fun q _ above =>
      directory_or_none_of_not_blocked free above
  refine (canonical_of_clear sound.acceptable clear).resolve_left fun found => ?_
  have there := (canonical_eq_ok_iff.mp found).2
  have absent := sound.whole u.place u.place (List.prefix_refl _) (List.prefix_refl _) gone
  rw [Path.goal_ofPlace fs.here proper named, absent] at there
  cases there

/-- A use whose directory is gone can be closed and destroyed, if no file is on the way, and
nothing happens. -/
theorem Sound.gone (sound : u.Sound fs) (gone : fs.get? u.place ≠ some .directory)
    (free : ¬ fs.Blocked u.place) :
    Scratch.close fs u.workspace = .ok fs ∧
      Scratch.destroy fs (.ofPlace u.place) = (fs, .ok ()) := by
  have destroyed := destroy_of_notFound (sound.canonical_of_gone gone free)
  refine ⟨?_, destroyed⟩
  unfold Use.place at destroyed
  rw [Scratch.close, destroyed]

/-- Destroying a use whose directory is gone changes nothing in any case. -/
theorem Sound.destroy_of_gone (sound : u.Sound fs) (gone : fs.get? u.place ≠ some .directory) :
    (Scratch.destroy fs (.ofPlace u.place)).1 = fs := by
  rcases destroy_cases fs (.ofPlace u.place) with same | ⟨place, found, directory, -⟩
  · exact same
  · have proper : u.place.Proper := sound.under.proper sound.proper
    obtain rfl := (place_of_canonical found).trans
      (Path.goal_ofPlace fs.here proper sound.under.ne_nil)
    exact absurd directory gone

/-- A directory that is there is reached through directories. -/
theorem Sound.passable (sound : u.Sound fs) (directory : fs.get? u.place = some .directory) :
    fs.Passable u.place := by
  refine ⟨fun q above => Classical.byContradiction fun other => ?_, sound.short⟩
  have missing := sound.whole q u.place above (List.prefix_refl u.place) other
  rw [directory] at missing
  cases missing

theorem Sound.not_blocked (sound : u.Sound fs) (directory : fs.get? u.place = some .directory) :
    ¬ fs.Blocked u.place := by
  rintro ⟨q, above, content, executable, file⟩
  cases file.symm.trans ((sound.passable directory).directory q above)

/-- A use can be written to as long as its directory is there. -/
theorem Sound.writable (sound : u.Sound fs) (directory : fs.get? u.place = some .directory)
    (acceptable : u.workspace.inputPath.Acceptable) (text : Text) :
    ∃ fs', Scratch.writeInput fs u.workspace text = .ok fs' := by
  have passable := sound.passable directory
  rcases sound.input with fresh | ⟨old, executable, -, file⟩
  · have ⟨n, place⟩ := sound.under
    exact (writeInput_isOk_iff sound.under sound.proper directory fresh).mpr
      ⟨acceptable, passable.above ⟨[name n], place.symm⟩⟩
  · have found := locate_inputPath sound.under sound.proper acceptable passable
    rw [if_pos (by rw [file]; rfl)] at found
    unfold Scratch.writeInput Files.write
    rw [found]
    simp only [bind, Except.bind, file]
    exact ⟨_, rfl⟩

/-- Closing a use leaves nothing at its place and below it.  It can only fail where nothing was
left of the use and a file is on the way. -/
theorem Sound.close (sound : u.Sound fs) :
    Scratch.close fs u.workspace = .ok (fs.removeTree u.place) ∨
      fs.Blocked u.place ∧ fs.removeTree u.place = fs ∧
        ∃ fault, Scratch.close fs u.workspace = .error fault := by
  by_cases directory : fs.get? u.place = some .directory
  · have passable : fs.Passable u.root := by
      obtain ⟨n, place⟩ := sound.under
      exact (sound.passable directory).above ⟨[name n], place.symm⟩
    exact .inl (close_of_directory sound.under sound.proper sound.acceptable passable directory)
  · rw [sound.nothing_left directory]
    by_cases blocked : fs.Blocked u.place
    · have untouched : (Scratch.destroy fs (.ofPlace u.workspace.place)).1 = fs :=
        sound.destroy_of_gone directory
      rw [Scratch.close]
      split
      · rename_i files done
        rw [done] at untouched
        exact .inl (congrArg Except.ok untouched)
      · exact .inr ⟨blocked, rfl, _, rfl⟩
    · exact .inl (sound.gone directory blocked).1

theorem Sound.drop (sound : u.Sound fs) : Scratch.drop fs u.workspace = fs.removeTree u.place := by
  rw [Scratch.drop]
  rcases sound.close with closed | ⟨-, nothing, fault, refused⟩
  · rw [closed]
  · rw [refused, nothing]

end Use

/-! ## All workspaces in use -/

namespace Yard

variable {y : Yard} {start files : Files} {uses : List Use}

/-- Where the workspaces in use are. -/
def places (y : Yard) : List Place := y.uses.map Use.place

/-- Two workspaces are at one place only if the directory of the one made earlier was removed. -/
def Apart (uses : List Use) : Prop :=
  uses.Pairwise fun later earlier => later.place = earlier.place → earlier.kept = false

/-- All uses are sound, what is kept is there, and nothing was made in its place. -/
structure Sound (y : Yard) : Prop where
  here : y.files.here.Proper
  uses : ∀ u ∈ y.uses, u.Sound y.files
  there : ∀ u ∈ y.uses, u.kept = true → y.files.get? u.place = some .directory
  apart : Apart y.uses

/-- After a look around, what is kept is there. -/
theorem sound_now (here : files.here.Proper) (sound : ∀ u ∈ uses, u.Sound files)
    (apart : Apart uses) : Sound (now files uses) := by
  refine ⟨here, fun u member => ?_, fun u member kept => ?_, ?_⟩
  · obtain ⟨v, used, rfl⟩ := List.mem_map.mp member
    exact (sound v used).look
  · obtain ⟨v, -, rfl⟩ := List.mem_map.mp member
    exact of_decide_eq_true (Bool.and_eq_true_iff.mp kept).2
  · refine List.pairwise_map.mpr (apart.imp fun removed same => ?_)
    rw [Use.kept_look, removed same, Bool.false_and]

/-- Nothing is lost by looking around where what is kept is there. -/
theorem now_of_there (there : ∀ u ∈ uses, u.kept = true → files.get? u.place = some .directory) :
    now files uses = ⟨files, uses⟩ := by
  have same : uses.map (Use.look files) = uses.map id :=
    List.map_congr_left fun u used => Use.look_of_there (there u used)
  rw [now, same, List.map_id]

theorem sound_start (proper : start.here.Proper) : Sound ⟨start, []⟩ :=
  ⟨proper, fun _ member => (List.not_mem_nil member).elim,
    fun _ member => (List.not_mem_nil member).elim, List.Pairwise.nil⟩

/-- Removals keep a yard sound, and so does ending uses. -/
theorem Sound.thinned (sound : y.Sound) (thinned : Thinned y.files files)
    (fewer : uses.Sublist y.uses) : Sound (now files uses) := by
  refine sound_now ?_ (fun u member => ?_) ?_
  · rw [thinned.here]
    exact sound.here
  · exact (sound.uses u (fewer.subset member)).thinned thinned
  · exact sound.apart.sublist fewer

/-- A workspace more.  It is not made where a use is whose directory is there. -/
theorem Sound.create {root : Path} {seed : Nat} {w : Scratch} (sound : y.Sound)
    (made : Scratch.create y.files root seed = .ok (w, files)) :
    Sound ⟨files, ⟨root.goal y.files.here, w, none, true⟩ :: y.uses⟩ := by
  have new := Use.sound_create sound.here made
  obtain ⟨-, -, ⟨spot, reaches⟩, -⟩ := create_cases made
  obtain ⟨under, rfl, absent⟩ := create_eq_ok made
  have passable := (passable_of_locate under new.proper reaches).2
  have ⟨n, place⟩ := under
  have other {u : Use} (used : u ∈ y.uses) (kept : u.kept = true) : u.place ≠ w.place := by
    intro same
    have there := sound.there u used kept
    rw [same, absent w.place (List.prefix_refl w.place)] at there
    cases there
  refine ⟨sound.here, fun u member => ?_, fun u member kept => ?_, ?_⟩
  · rcases List.mem_cons.mp member with rfl | used
    · exact new
    · rw [place]
      refine (sound.uses u used).put passable (.inl rfl) fun same => ?_
      exact under.ne_input ((place.trans same).symm)
  · rcases List.mem_cons.mp member with rfl | used
    · exact get?_put_self under.ne_nil
    · rw [get?_put_ne (other used kept)]
      exact sound.there u used kept
  · refine List.pairwise_cons.mpr ⟨fun u used same => ?_, sound.apart⟩
    exact Bool.eq_false_iff.mpr fun kept => other used kept same.symm

/-- The input file of a use written.  Others at the same place have the text on record as well. -/
theorem Sound.write {index : Nat} {u : Use} {text : Text} (sound : y.Sound)
    (used : y.uses[index]? = some u)
    (written : Scratch.writeInput y.files u.workspace text = .ok files) :
    Sound ⟨files, y.uses.map (Use.note u.place text)⟩ := by
  have own := sound.uses u (List.mem_of_getElem? used)
  have passable := (passable_of_writeInput own.under own.proper written).2
  obtain ⟨-, executable, rfl⟩ := writeInput_eq_ok own.under own.proper written
  refine ⟨sound.here, fun v member => ?_, fun v member kept => ?_, ?_⟩
  · obtain ⟨x, found, rfl⟩ := List.mem_map.mp member
    have stands := sound.uses x found
    by_cases same : x.place = u.place
    · have shared : x.workspace = u.workspace := congrArg Scratch.mk same
      rw [Use.note, if_pos same]
      exact stands.write (shared ▸ written)
    · rw [Use.note, if_neg same]
      refine stands.put passable (.inr ⟨own.input_ne_directory, stands.under.ne_input⟩)
        fun clash => ?_
      exact same (List.append_inj_left' clash rfl).symm
  · obtain ⟨x, found, rfl⟩ := List.mem_map.mp member
    rw [Use.kept_note] at kept
    rw [Use.place_note]
    exact (get?_put_ne (sound.uses x found).under.ne_input.symm).trans (sound.there x found kept)
  · refine List.pairwise_map.mpr (sound.apart.imp fun removed same => ?_)
    rw [Use.place_note, Use.place_note] at same
    rw [Use.kept_note, removed same]

theorem Sound.act_create {root : Path} {seed : Nat} {w : Scratch} (sound : y.Sound)
    (made : Scratch.create y.files root seed = .ok (w, files)) :
    y.act (.create root seed) = ⟨files, ⟨root.goal y.files.here, w, none, true⟩ :: y.uses⟩ := by
  simp only [act, (create_cases made).1, made]
  exact now_of_there (sound.create made).there

theorem act_create_of_error {root : Path} {seed : Nat} {fault : IoFault}
    (failed : Scratch.create y.files root seed = .error fault) : y.act (.create root seed) = y := by
  simp only [act, failed]
  cases y.files.canonical root <;> rfl

theorem Sound.act_write {index : Nat} {u : Use} {text : Text} (sound : y.Sound)
    (used : y.uses[index]? = some u)
    (written : Scratch.writeInput y.files u.workspace text = .ok files) :
    y.act (.write index text) = ⟨files, y.uses.map (Use.note u.place text)⟩ := by
  simp only [act, used, written]
  exact now_of_there (sound.write used written).there

/-- Ending a use, one way or the other, removes its tree. -/
theorem Sound.end_use {index : Nat} {u : Use} (sound : y.Sound) (used : y.uses[index]? = some u) :
    y.act (.close index) = now (y.files.removeTree u.place) (y.uses.eraseIdx index) ∧
      y.act (.drop index) = now (y.files.removeTree u.place) (y.uses.eraseIdx index) := by
  have own := sound.uses u (List.mem_of_getElem? used)
  refine ⟨?_, by simp only [act, used, own.drop]⟩
  rcases own.close with closed | ⟨-, nothing, fault, refused⟩
  · simp only [act, used, closed]
  · simp only [act, used, refused, nothing]

/-- Every step keeps a yard sound. -/
theorem Sound.act {a : Act} (sound : y.Sound) : (y.act a).Sound := by
  cases a with
  | create root seed =>
      cases made : Scratch.create y.files root seed with
      | error fault => rwa [act_create_of_error made]
      | ok new =>
          rw [sound.act_create made]
          exact sound.create made
  | write index text =>
      cases used : y.uses[index]? with
      | none => simpa only [Yard.act, used] using sound
      | some u =>
          cases written : Scratch.writeInput y.files u.workspace text with
          | error fault => simpa only [Yard.act, used, written] using sound
          | ok files =>
              rw [sound.act_write used written]
              exact sound.write used written
  | close index =>
      cases used : y.uses[index]? with
      | none => simpa only [Yard.act, used] using sound
      | some u =>
          rw [(sound.end_use used).1]
          exact sound.thinned (thinned_removeTree _ _) (y.uses.eraseIdx_sublist index)
  | drop index =>
      cases used : y.uses[index]? with
      | none => simpa only [Yard.act, used] using sound
      | some u =>
          rw [(sound.end_use used).2]
          exact sound.thinned (thinned_removeTree _ _) (y.uses.eraseIdx_sublist index)
  | destroy path => exact sound.thinned (thinned_destroy y.files path) (List.Sublist.refl y.uses)
  | vanish place => exact sound.thinned (thinned_removeTree y.files place) (List.Sublist.refl y.uses)

/-- Any acts in any order lead to a yard that comes about. -/
theorem Reached.acts (reached : Reached start y) (acts : List Act) :
    Reached start (acts.foldl Yard.act y) := by
  induction acts generalizing y with
  | nil => exact reached
  | cons a acts ih => exact ih (reached.act a)

/-- So every yard that comes about is sound. -/
theorem Reached.sound (proper : start.here.Proper) (reached : Reached start y) : y.Sound := by
  induction reached with
  | start => exact sound_start proper
  | act a reached ih => exact ih.act

/-! ## What the operations do -/

/-- Making a workspace puts one directory, right under the root that was found, where nothing was. -/
theorem Sound.created {root : Path} {seed : Nat} {w : Scratch} (sound : y.Sound)
    (made : Scratch.create y.files root seed = .ok (w, files)) :
    ∃ place, y.files.canonical root = .ok place ∧ w.Under place ∧
      y.act (.create root seed) = ⟨files, ⟨place, w, none, true⟩ :: y.uses⟩ ∧
      (∀ q, w.place <+: q → y.files.get? q = none) ∧
      ∀ q, files.get? q = if q = w.place then some .directory else y.files.get? q := by
  refine ⟨_, (create_cases made).1, (create_eq_ok made).1, sound.act_create made,
    (create_eq_ok made).2.2, fun q => ?_⟩
  obtain ⟨under, rfl, -⟩ := create_eq_ok made
  exact get?_put under.ne_nil

/-- Writing puts one file, which can be read back. -/
theorem Sound.written {index : Nat} {u : Use} {text : Text} (sound : y.Sound)
    (used : y.uses[index]? = some u)
    (written : Scratch.writeInput y.files u.workspace text = .ok files) :
    y.act (.write index text) = ⟨files, y.uses.map (Use.note u.place text)⟩ ∧
      files.readText? u.workspace.inputPath = some text ∧
      ∃ executable, ∀ q, files.get? q =
        if q = u.workspace.inputPlace then some (.file text.encode executable)
        else y.files.get? q := by
  have own := sound.uses u (List.mem_of_getElem? used)
  obtain ⟨reads, executable, put⟩ := writeInput_eq_ok own.under own.proper written
  refine ⟨sound.act_write used written, reads, executable, fun q => ?_⟩
  rw [put]
  exact get?_put u.workspace.inputPlace_ne_nil

/-- Ending a use removes its tree, and nothing else. -/
theorem Sound.ended {index : Nat} {u : Use} (sound : y.Sound) (used : y.uses[index]? = some u) :
    ∃ files, (y.files.get? u.place = some .directory ∨ ¬ y.files.Blocked u.place →
        Scratch.close y.files u.workspace = .ok files) ∧
      Scratch.drop y.files u.workspace = files ∧
      y.act (.close index) = now files (y.uses.eraseIdx index) ∧
      y.act (.drop index) = now files (y.uses.eraseIdx index) ∧
      ∀ q, files.get? q = if u.place.within q then none else y.files.get? q := by
  have own := sound.uses u (List.mem_of_getElem? used)
  obtain ⟨closes, drops⟩ := sound.end_use used
  refine ⟨_, fun open_way => ?_, own.drop, closes, drops, fun q => get?_removeTree own.under.ne_nil⟩
  refine own.close.resolve_right fun ⟨blocked, _⟩ => ?_
  exact open_way.elim (fun there => own.not_blocked there blocked) fun free => free blocked

/-- **Workspaces keep apart, and go without a trace.**  Whatever has been made, written, closed,
dropped, destroyed and removed so far, in whatever order:

1. two workspaces in use are at one place only if the directory of the one made earlier has been
   removed since, and each is right under the root it was made under, dots followed;
2. making one that fails changes nothing, and otherwise puts one directory under the root found,
   where nothing was;
3. writing puts one file, with the text to be read back, and can be done while the directory is
   there; at any time an input file that is there holds the text that was written last at its place;
4. closing and dropping both remove the tree of the workspace, and nothing else;
5. closing succeeds while the directory is there, and so do closing and destroying, without any
   change, when it is gone, unless a file stands on the way to it; destroying also does by every
   path that led to something before other removals;
6. destroying twice is destroying once. -/
theorem workspaces_apart_and_cleaned (proper : start.here.Proper) (reached : Reached start y) :
    Apart y.uses ∧
    (∀ u ∈ y.uses, u.kept = true → y.files.get? u.place = some .directory) ∧
    (∀ u ∈ y.uses, ∃ n, u.place = u.root ++ [name n]) ∧
    (∀ root seed,
      (∀ fault, Scratch.create y.files root seed = .error fault →
        y.act (.create root seed) = y) ∧
      ∀ w files, Scratch.create y.files root seed = .ok (w, files) →
        ∃ place, y.files.canonical root = .ok place ∧ (∃ n, w.place = place ++ [name n]) ∧
          y.act (.create root seed) = ⟨files, ⟨place, w, none, true⟩ :: y.uses⟩ ∧
          (∀ q, w.place <+: q → y.files.get? q = none) ∧
          ∀ q, files.get? q = if q = w.place then some .directory else y.files.get? q) ∧
    (∀ index u text files, y.uses[index]? = some u →
      Scratch.writeInput y.files u.workspace text = .ok files →
        y.act (.write index text) = ⟨files, y.uses.map (Use.note u.place text)⟩ ∧
        files.readText? u.workspace.inputPath = some text ∧
        ∃ executable, ∀ q, files.get? q =
          if q = u.workspace.inputPlace then some (.file text.encode executable)
          else y.files.get? q) ∧
    (∀ u ∈ y.uses, y.files.get? u.place = some .directory → u.workspace.inputPath.Acceptable →
      ∀ text, ∃ files, Scratch.writeInput y.files u.workspace text = .ok files) ∧
    (∀ u ∈ y.uses, ∀ e, y.files.get? u.workspace.inputPlace = some e →
      ∃ text executable, u.written = some text ∧ e = .file (Text.encode text) executable) ∧
    (∀ index u, y.uses[index]? = some u →
      ∃ files, (y.files.get? u.place = some .directory ∨ ¬ y.files.Blocked u.place →
          Scratch.close y.files u.workspace = .ok files) ∧
        Scratch.drop y.files u.workspace = files ∧
        y.act (.close index) = now files (y.uses.eraseIdx index) ∧
        y.act (.drop index) = now files (y.uses.eraseIdx index) ∧
        ∀ q, files.get? q = if u.place.within q then none else y.files.get? q) ∧
    (∀ u ∈ y.uses, y.files.get? u.place = none →
      (Scratch.destroy y.files (.ofPlace u.place)).1 = y.files ∧
        (¬ y.files.Blocked u.place → Scratch.close y.files u.workspace = .ok y.files ∧
          Scratch.destroy y.files (.ofPlace u.place) = (y.files, .ok ()))) ∧
    (∀ path, y.files.canonical path = .error (.system .notFound) →
      Scratch.destroy y.files path = (y.files, .ok ())) ∧
    (∀ path place files, y.files.canonical path = .ok place → Thinned y.files files →
      files.get? place = none → Scratch.destroy files path = (files, .ok ())) ∧
    ∀ path, Scratch.destroy (Scratch.destroy y.files path).1 path =
      Scratch.destroy y.files path := by
  have sound := reached.sound proper
  refine ⟨sound.apart, sound.there, fun u used => (sound.uses u used).under,
    fun root seed => ⟨?_, ?_⟩, ?_, ?_, ?_, ?_, ?_, ?_, ?_, ?_⟩
  · exact fun fault failed => act_create_of_error failed
  · exact fun w files made => sound.created made
  · exact fun index u text files used written => sound.written used written
  · exact fun u used directory acceptable => (sound.uses u used).writable directory acceptable
  · intro u used e there
    rcases (sound.uses u used).input with absent | ⟨text, executable, recorded, file⟩
    · cases there.symm.trans absent
    · exact ⟨text, executable, recorded, Option.some.inj (there.symm.trans file)⟩
  · exact fun index u used => sound.ended used
  · intro u used absent
    have gone : y.files.get? u.place ≠ some .directory := by simp [absent]
    exact ⟨(sound.uses u used).destroy_of_gone gone, (sound.uses u used).gone gone⟩
  · exact fun path missing => destroy_of_notFound missing
  · exact fun path place files found thinned gone => destroy_of_gone found thinned gone
  · exact fun path => destroy_destroy y.files path

/-- Two workspaces at one place: the first was written to and removed by somebody else, and is
closed when there is something at its place again. -/
theorem workspaces_apart_and_cleaned_shared :
    ∃ y, Reached default y ∧ y.places = [[name 0], [name 0]] ∧ Apart y.uses ∧
      ∃ files, Scratch.close y.files ⟨[name 0]⟩ = .ok files ∧ files.get? [name 0] = none ∧
        y.act (.close 1) = now files [⟨[], ⟨[name 0]⟩, none, true⟩] := by
  let acts : List Act :=
    [.create (.ofPlace []) 0, .write 0 ['a'], .vanish [name 0], .create (.ofPlace []) 0]
  have comes_to : acts.foldl act ⟨default, []⟩ = ⟨⟨[([name 0], .directory)], []⟩,
      [⟨[], ⟨[name 0]⟩, none, true⟩, ⟨[], ⟨[name 0]⟩, some ['a'], false⟩]⟩ := by decide +kernel
  have reached : Reached default _ := comes_to ▸ Reached.start.acts acts
  obtain ⟨apart, -, -, -, -, -, -, ended, -⟩ := workspaces_apart_and_cleaned (by decide) reached
  obtain ⟨files, closes, -, ends, -, removed⟩ := ended 1 _ rfl
  refine ⟨_, reached, rfl, apart, files, closes (.inl rfl), ?_, ends⟩
  rw [removed]
  rfl

/-- **A name is picked again.**  The directory of a workspace in use is removed, and the next
workspace gets its name: two workspaces are at one place.  If the first was in a directory with the
name of an input file, the file of the second comes to stand on the way to it, and it cannot be
closed although it is gone.  Nor can a path be destroyed that leads through any other file. -/
theorem name_picked_again :
    (∃ y, Reached default y ∧ y.places = [[name 0], [name 0]] ∧ ¬ y.places.Nodup) ∧
    (∃ start y u, start.here.Proper ∧ Reached start y ∧ u ∈ y.uses ∧
      y.files.get? u.place = none ∧ Scratch.close y.files u.workspace =
        .error (.systemAt .notDirectory (Place.text u.place))) ∧
    let fs : Files := ⟨[([[0x66]], .file [] false)], []⟩
    fs.get? [[0x66], [0x78]] = none ∧
      Scratch.destroy fs (.ofPlace [[0x66], [0x78]]) = (fs, .error (.system .notDirectory)) := by
  refine ⟨?_, ?_, rfl, rfl⟩
  · let acts : List Act := [.create (.ofPlace []) 0, .vanish [name 0], .create (.ofPlace []) 0]
    exact ⟨_, Reached.start.acts acts, by decide +kernel, by decide +kernel⟩
  · let start : Files := ⟨[([name 0], .directory), ([name 0, inputName], .directory)], []⟩
    let acts : List Act := [.create (.ofPlace [name 0, inputName]) 1, .vanish [name 0],
      .create (.ofPlace []) 0, .write 0 ['a']]
    have left : (acts.foldl act ⟨start, []⟩).files =
        ⟨[([name 0], .directory), ([name 0, inputName], .file [97] false)], []⟩ := by
      decide +kernel
    refine ⟨start, _, ⟨[name 0, inputName], ⟨[name 0, inputName, name 1]⟩, none, false⟩,
      by decide, Reached.start.acts acts, by decide +kernel, by decide +kernel, ?_⟩
    rw [left]
    rfl

end Yard

end Kickstart
