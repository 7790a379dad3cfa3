/-
# Kickstart.Proofs.Files.Isolation -- workspaces do not show outside

Files that differ in workspaces under one root only (`Scratch.Alike`) look the same along
every path that leads past the workspaces (`Path.Passes`).

Whether a buffer can be copied does not depend on the workspaces that are there, as long
as one name is left: making one takes a root that is found, a way of directories down to it
and a path that the system takes (`create_isOk_iff`), writing to a fresh one takes the same
(`writeInput_isOk_iff`), and closing one that was written to removes it, or finds it gone, and
does not fail by itself (`close_of_directory`, `close_of_absent`, `close_isOk`).
-/
import Kickstart.Proofs.Files.Scratch

namespace Kickstart

set_option autoImplicit false

/-! ## Ways through directories -/

namespace Files

variable {fs fs' : Files} {p q start : Place}

/-- Every place down to this one is a directory whose name is not too long. -/
structure Passable (fs : Files) (p : Place) : Prop where
  directory : ∀ q, q <+: p → fs.get? q = some .directory
  short : ∀ name ∈ p, name.length ≤ longestName

theorem Passable.above (passable : fs.Passable p) (above : q <+: p) : fs.Passable q :=
  ⟨fun r higher => passable.directory r (higher.trans above),
    fun name member => passable.short name (above.subset member)⟩

theorem Passable.concat {name : Name} (passable : fs.Passable p)
    (directory : fs.get? (p ++ [name]) = some .directory) (short : name.length ≤ longestName) :
    fs.Passable (p ++ [name]) := by
  refine ⟨fun q above => ?_, fun other member => ?_⟩
  · rcases List.prefix_concat_iff.mp above with rfl | higher
    · exact directory
    · exact passable.directory q higher
  · rcases List.mem_append.mp member with old | last
    · exact passable.short other old
    · rw [List.mem_singleton.mp last]
      exact short

/-- Names that lead through directories can be taken together. -/
theorem follow_append {names rest : List Name} (proper : Place.Proper names)
    (passable : fs.Passable (start ++ names)) :
    fs.follow start (names ++ rest) = fs.follow (start ++ names) rest := by
  induction names generalizing start with
  | nil => simp
  | cons name later ih =>
      have is_name := proper name List.mem_cons_self
      have next : start ++ name :: later = start ++ [name] ++ later := by simp
      rw [next] at passable ⊢
      have here := passable.directory start ((List.prefix_append start [name]).trans
        (List.prefix_append _ later))
      have there := passable.directory (start ++ [name]) (List.prefix_append _ later)
      have short := passable.short name (by simp)
      rw [List.cons_append, follow_cons, here, Place.enter_of_isName start is_name]
      simp only
      rw [if_neg (not_or.mpr is_name.2.2), if_neg (Nat.not_lt.mpr short), there,
        if_pos (by rfl)]
      exact ih (fun n member => proper n (List.mem_cons_of_mem _ member)) passable

theorem passable_root (fs : Files) : fs.Passable [] := by
  refine ⟨fun q above => ?_, fun name member => by cases member⟩
  rw [List.prefix_nil.mp above]
  rfl

theorem directory_of_follow {names : List Name} {spot : Spot} (more : names ≠ [])
    (found : fs.follow start names = .ok spot) : fs.get? start = some .directory := by
  cases names with
  | nil => exact absurd rfl more
  | cons name rest => exact (follow_cons_cases found).1

/-- What lies beyond names is reached through directories. -/
theorem passable_of_follow {names : List Name} {last : Name} {spot : Spot}
    (proper : Place.Proper names) (above : fs.Passable start)
    (found : fs.follow start (names ++ [last]) = .ok spot) : fs.Passable (start ++ names) := by
  induction names generalizing start with
  | nil => simpa using above
  | cons name later ih =>
      have is_name := proper name List.mem_cons_self
      have here := above.directory start (List.prefix_refl start)
      rw [List.cons_append, follow_cons, here, Place.enter_of_isName start is_name] at found
      simp only at found
      rw [if_neg (not_or.mpr is_name.2.2)] at found
      split at found
      · cases found
      · rename_i short
        split at found
        · have next := above.concat (directory_of_follow (by simp) found) (Nat.not_lt.mp short)
          have := ih (fun n member => proper n (List.mem_cons_of_mem _ member)) next found
          simpa using this
        · rw [if_neg (by simp)] at found
          cases found

end Files

/-- The place belongs to a workspace under the root, one that is there or one that may be. -/
def Scratch.Area (root q : Place) : Prop := ∃ n, root ++ [Scratch.name n] <+: q

/-- The path leads past all workspaces under the root. -/
def Path.Passes (here root : Place) (path : Path) : Prop :=
  ∀ q ∈ path.trail here, ¬ Scratch.Area root q

namespace Scratch

open Files

variable {root : Place} {w v : Scratch} {fs fs' : Files} {text : Text}

/-! ## Where workspaces are -/

theorem not_area_above {q : Place} (above : q <+: root) : ¬ Area root q := by
  rintro ⟨n, inside⟩
  have longer := (inside.trans above).length_le
  rw [List.length_append, List.length_singleton] at longer
  omega

theorem Under.area (under : w.Under root) {q : Place} (inside : w.place <+: q) : Area root q := by
  obtain ⟨n, place⟩ := under
  exact ⟨n, place ▸ inside⟩

/-- Nothing differs but in workspaces under the root. -/
structure Alike (root : Place) (fs fs' : Files) : Prop where
  here : fs'.here = fs.here
  entry : ∀ q, ¬ Area root q → fs'.get? q = fs.get? q

theorem Alike.refl (root : Place) (fs : Files) : Alike root fs fs := ⟨rfl, fun _ _ => rfl⟩

theorem Alike.symm (alike : Alike root fs fs') : Alike root fs' fs :=
  ⟨alike.here.symm, fun q outside => (alike.entry q outside).symm⟩

theorem Alike.trans {fs'' : Files} (first : Alike root fs fs') (second : Alike root fs' fs'') :
    Alike root fs fs'' :=
  ⟨second.here.trans first.here, fun q outside =>
    (second.entry q outside).trans (first.entry q outside)⟩

theorem Under.alike (under : w.Under root) (same : SameOutside w.place fs fs') : Alike root fs fs' :=
  ⟨same.here, fun q outside => same.entry q fun inside => outside (under.area inside)⟩

theorem Alike.passable (alike : Alike root fs fs') (passable : fs.Passable root) :
    fs'.Passable root :=
  ⟨fun q above => (alike.entry q (not_area_above above)).trans (passable.directory q above),
    passable.short⟩

theorem Alike.canonical {path : Path} (alike : Alike root fs fs')
    (passes : path.Passes fs.here root) : fs'.canonical path = fs.canonical path :=
  canonical_congr alike.here fun q on_trail => alike.entry q (passes q on_trail)

/-- A validator sees the same in both. -/
theorem Alike.seen {path : Path} (alike : Alike root fs fs') (passes : path.Passes fs.here root) :
    Validator.seen fs' path = Validator.seen fs path := by
  rw [Validator.seen, Validator.seen,
    readText?_congr alike.here fun q on_trail => alike.entry q (passes q on_trail)]

theorem Alike.put {p : Place} {e : Entry} (alike : Alike root fs fs') :
    Alike root (fs.put p e) (fs'.put p e) := by
  refine ⟨alike.here, fun q outside => ?_⟩
  by_cases same : q = p
  · subst same
    by_cases top : q = []
    · rw [top]
      rfl
    · rw [get?_put_self top, get?_put_self top]
  · rw [get?_put_ne same, get?_put_ne same]
    exact alike.entry q outside

theorem Alike.removeTree {top : Place} (alike : Alike root fs fs') :
    Alike root (fs.removeTree top) (fs'.removeTree top) := by
  refine ⟨alike.here, fun q outside => ?_⟩
  have same := alike.entry q outside
  by_cases root : q = []
  · rw [root]
    rfl
  · rw [get?_removeTree_of_ne root, get?_removeTree_of_ne root, same]

/-! ## What decides whether a buffer can be copied -/

theorem bytes_inputPath {n : Nat} (place : w.place = root ++ [name n]) :
    w.inputPath.bytes =
      root.flatMap (fun name => Path.slash :: name) ++ Path.slash :: name n ++
        Path.slash :: inputName := by
  simp [inputPath, Path.ofPlace, inputPlace, place]

/-- All input files under a root have equally good paths. -/
theorem acceptable_inputPath (here : w.Under root) (there : v.Under root)
    (acceptable : w.inputPath.Acceptable) : v.inputPath.Acceptable := by
  obtain ⟨n, here⟩ := here
  obtain ⟨m, there⟩ := there
  obtain ⟨-, clean, short⟩ := acceptable
  rw [bytes_inputPath here] at clean short
  unfold Path.Acceptable
  rw [bytes_inputPath there]
  refine ⟨by simp, ?_, ?_⟩
  · simp only [List.mem_append, List.mem_cons, not_or] at clean ⊢
    exact ⟨⟨clean.1.1, clean.1.2.1, nul_not_mem_name m⟩, clean.2⟩
  · simp only [List.length_append, List.length_cons, length_name] at short ⊢
    exact short

theorem acceptable_place (under : w.Under root) (acceptable : w.inputPath.Acceptable) :
    (Path.ofPlace w.place).Acceptable := by
  have longer : w.inputPath.bytes = (Path.ofPlace w.place).bytes ++ Path.slash :: inputName := by
    simp [inputPath, Path.ofPlace, inputPlace, under.ne_nil]
  obtain ⟨-, clean, short⟩ := acceptable
  rw [longer] at clean short
  refine ⟨?_, ?_, ?_⟩
  · have named := List.exists_mem_of_ne_nil w.place under.ne_nil
    simpa [Path.ofPlace, under.ne_nil] using named
  · exact fun nul => clean (List.mem_append_left _ nul)
  · rw [List.length_append] at short
    omega

/-- A path below a directory is followed to it first. -/
theorem follow_inputPath (under : w.Under root) (proper : root.Proper) (here : Place) :
    fs.follow (w.inputPath.origin here) w.inputPath.names =
      fs.follow [] (w.place ++ [inputName]) := by
  have names : w.inputPath.names = w.place ++ [inputName] :=
    Path.names_ofPlace (under.proper_input proper) w.inputPlace_ne_nil
  rw [names, Path.origin, inputPath, Path.isAbsolute_ofPlace, if_pos rfl]

theorem Under.passable (under : w.Under root) (passable : fs.Passable root)
    (directory : fs.get? w.place = some .directory) : fs.Passable w.place := by
  obtain ⟨n, place⟩ := under
  rw [place] at directory ⊢
  exact passable.concat directory (by rw [length_name]; decide)

/-- The path of an input file leads to its place, past the directory. -/
theorem locate_inputPath (under : w.Under root) (proper : root.Proper)
    (acceptable : w.inputPath.Acceptable) (passable : fs.Passable w.place) :
    fs.locate w.inputPath =
      .ok (if (fs.get? w.inputPlace).isSome then .taken w.inputPlace else .free w.inputPlace) := by
  refine locate_eq_ok_iff.mpr ⟨acceptable, ?_⟩
  rw [follow_inputPath under proper, follow_append (under.proper proper) passable, List.nil_append,
    follow_cons, passable.directory w.place (List.prefix_refl w.place),
    Place.enter_of_isName w.place isName_inputName]
  simp only
  rw [if_neg (by decide), if_neg (by decide)]
  change (if (fs.get? w.inputPlace).isSome then _ else _) = _
  split
  · rfl
  · rfl

/-- A workspace that was written to was reached through directories. -/
theorem passable_of_writeInput (under : w.Under root) (proper : root.Proper)
    (written : writeInput fs w text = .ok fs') : w.inputPath.Acceptable ∧ fs.Passable w.place := by
  unfold writeInput write at written
  cases found : fs.locate w.inputPath with
  | error fault =>
      rw [found] at written
      cases written
  | ok spot =>
      obtain ⟨acceptable, follows⟩ := locate_eq_ok_iff.mp found
      rw [follow_inputPath under proper] at follows
      exact ⟨acceptable, passable_of_follow (under.proper proper) (passable_root fs) follows⟩

/-- A fresh workspace can be written to if its path can be followed. -/
theorem writeInput_isOk_iff (under : w.Under root) (proper : root.Proper)
    (directory : fs.get? w.place = some .directory) (fresh : fs.get? w.inputPlace = none) :
    (∃ fs', writeInput fs w text = .ok fs') ↔ w.inputPath.Acceptable ∧ fs.Passable root := by
  constructor
  · rintro ⟨fs', written⟩
    obtain ⟨acceptable, passable⟩ := passable_of_writeInput under proper written
    obtain ⟨n, place⟩ := under
    refine ⟨acceptable, passable.above ?_⟩
    rw [place]
    exact List.prefix_append root [name n]
  · rintro ⟨acceptable, passable⟩
    have found := locate_inputPath under proper acceptable (under.passable passable directory)
    rw [if_neg (by simp [fresh])] at found
    unfold writeInput write
    rw [found]
    exact ⟨_, rfl⟩

/-- The path of a workspace is followed through the names of its place. -/
theorem locate_place (under : w.Under root) (proper : root.Proper)
    (acceptable : (Path.ofPlace w.place).Acceptable) {spot : Spot}
    (found : fs.follow [] w.place = .ok spot) : fs.locate (.ofPlace w.place) = .ok spot := by
  refine locate_eq_ok_iff.mpr ⟨acceptable, ?_⟩
  rw [Path.origin, Path.isAbsolute_ofPlace, if_pos rfl,
    Path.names_ofPlace (under.proper proper) under.ne_nil, found]

/-- The names of a workspace that is not there lead to a free place. -/
theorem follow_place_of_absent (under : w.Under root) (proper : root.Proper)
    (passable : fs.Passable root) (absent : fs.get? w.place = none) :
    fs.follow [] w.place = .ok (.free w.place) := by
  obtain ⟨n, place⟩ := under
  rw [place] at absent ⊢
  rw [follow_append proper passable, List.nil_append, follow_cons,
    passable.directory root (List.prefix_refl root), Place.enter_of_isName root (isName_name n)]
  simp only
  rw [if_neg (not_or.mpr (isName_name n).2.2), if_neg (by rw [length_name]; decide), absent]
  rfl

/-- A path that leads to a workspace leads through directories to its root. -/
theorem passable_of_locate (under : w.Under root) (proper : root.Proper) {spot : Spot}
    (found : fs.locate (.ofPlace w.place) = .ok spot) :
    (Path.ofPlace w.place).Acceptable ∧ fs.Passable root := by
  obtain ⟨acceptable, follows⟩ := locate_eq_ok_iff.mp found
  rw [Path.origin, Path.isAbsolute_ofPlace, if_pos rfl,
    Path.names_ofPlace (under.proper proper) under.ne_nil] at follows
  obtain ⟨n, place⟩ := under
  rw [place] at follows
  exact ⟨acceptable, passable_of_follow proper (passable_root fs) follows⟩

/-- A workspace can be made at a free place if the root is found and its path can be followed. -/
theorem create_isOk_iff {path : Path} {seed : Nat} {place : Place}
    (proper : (path.goal fs.here).Proper)
    (free : freePlace? fs (path.goal fs.here) seed = some place) :
    (∃ made, create fs path seed = .ok made) ↔
      fs.canonical path = .ok (path.goal fs.here) ∧ (Path.ofPlace place).Acceptable ∧
        fs.Passable (path.goal fs.here) := by
  constructor
  · rintro ⟨⟨v, made⟩, created⟩
    obtain ⟨found, same, ⟨spot, reaches⟩, -⟩ := create_cases created
    obtain rfl := Option.some.inj (free.symm.trans same)
    exact ⟨found, passable_of_locate (under_of_freePlace? free) proper reaches⟩
  · rintro ⟨found, acceptable, passable⟩
    have under := under_of_freePlace? free
    have absent : fs.get? place = none :=
      get?_of_isFree (List.find?_some free) under.ne_nil (List.prefix_refl place)
    have reaches : fs.locate (.ofPlace place) = .ok (.free place) :=
      locate_place under proper acceptable (follow_place_of_absent under proper passable absent)
    unfold create
    rw [found]
    simp only [bind, Except.bind, free, reaches]
    exact ⟨_, rfl⟩

/-- A workspace that can be reached is removed when it is closed. -/
theorem close_of_directory (under : w.Under root) (proper : root.Proper)
    (acceptable : (Path.ofPlace w.place).Acceptable) (passable : fs.Passable root)
    (directory : fs.get? w.place = some .directory) :
    close fs w = .ok (fs.removeTree w.place) := by
  have proper_place := under.proper proper
  have follows : fs.follow [] (w.place ++ []) = fs.follow ([] ++ w.place) [] :=
    follow_append proper_place (under.passable passable directory)
  rw [List.append_nil, List.nil_append, follow] at follows
  have canonical : fs.canonical (.ofPlace w.place) = .ok w.place :=
    canonical_eq_ok_iff.mpr
      ⟨locate_place under proper acceptable follows, by rw [directory]; rfl⟩
  rw [close, destroy, removeDirectory_ofPlace proper_place under.ne_nil canonical directory]

/-- A workspace that is gone counts as closed. -/
theorem close_of_absent (under : w.Under root) (proper : root.Proper)
    (acceptable : (Path.ofPlace w.place).Acceptable) (passable : fs.Passable root)
    (absent : fs.get? w.place = none) : close fs w = .ok fs := by
  have nowhere : fs.canonical (.ofPlace w.place) = .error (.system .notFound) := by
    rw [Files.canonical, locate_place under proper acceptable
      (follow_place_of_absent under proper passable absent)]
    rfl
  rw [close, destroy, removeDirectory, nowhere]
  rfl

/-- A workspace that was written to can be closed, whether a run has removed it or not. -/
theorem close_isOk (under : w.Under root) (proper : root.Proper)
    (acceptable : w.inputPath.Acceptable) (passable : fs.Passable root)
    (plain : fs.get? w.place = some .directory ∨ fs.get? w.place = none) :
    ∃ fs', close fs w = .ok fs' := by
  have acceptable := acceptable_place under acceptable
  rcases plain with directory | absent
  · exact ⟨_, close_of_directory under proper acceptable passable directory⟩
  · exact ⟨_, close_of_absent under proper acceptable passable absent⟩

end Scratch

end Kickstart
