/-
# Kickstart.Proofs.Files.Tree -- what operations on files read and change

Files are seen through `get?`.  An operation changes what it names: `SameOutside top`
says that nothing differs but at a place and below it.  It reads what lies on the way of
its path, so that files which agree on the trail give the same answer
(`locate_congr`, `canonical_congr`, `read_congr`).  What was written is what is read
(`write_eq_ok`).
-/
import Kickstart.Files.Tree
import Kickstart.Proofs.Files.Path

namespace Kickstart

set_option autoImplicit false

/-- An entry of a list filtered by its key. -/
theorem lookup_filter_key {α β : Type} [BEq α] [LawfulBEq α] (keep : α → Bool) (a : α)
    (l : List (α × β)) :
    (l.filter fun x => keep x.1).lookup a = if keep a then l.lookup a else none := by
  induction l with
  | nil => simp
  | cons x l ih =>
      obtain ⟨b, y⟩ := x
      by_cases same : a = b
      · subst same
        cases kept : keep a <;> simp [kept, ih]
      · cases kept : keep b <;> simp [kept, List.lookup_cons, beq_eq_false_iff_ne.mpr same, ih]

theorem mapError_eq_ok {ε ε' α : Type} {x : Except ε α} {f : ε → ε'} {a : α} :
    x.mapError f = .ok a ↔ x = .ok a := by
  cases x with
  | error e => constructor <;> intro same <;> cases same
  | ok b =>
      show (.ok b : Except ε' α) = .ok a ↔ _
      rw [Except.ok.injEq, Except.ok.injEq]

/-- The system takes the path: it is not empty, holds no NUL and is not too long. -/
def Path.Acceptable (path : Path) : Prop :=
  path.bytes ≠ [] ∧ 0 ∉ path.bytes ∧ path.bytes.length ≤ Files.longestPath

namespace Files

variable {fs : Files} {p q top : Place} {e : Entry}

/-! ## Entries -/

@[simp] theorem here_put : (fs.put p e).here = fs.here := rfl

@[simp] theorem here_removeTree : (fs.removeTree top).here = fs.here := rfl

@[simp] theorem here_clear : (fs.clear top).here = fs.here := rfl

theorem get?_put_self (below : p ≠ []) : (fs.put p e).get? p = some e := by
  obtain ⟨entries, here⟩ := fs
  simp only [get?, put, below, if_false]
  induction entries with
  | nil => simp [putEntry]
  | cons x rest ih =>
      obtain ⟨r, d⟩ := x
      by_cases same : r = p
      · simp [putEntry, same]
      · simp only [putEntry, if_neg same]
        rw [List.lookup_cons, beq_eq_false_iff_ne.mpr (Ne.symm same)]
        exact ih

theorem get?_put_ne (other : q ≠ p) : (fs.put p e).get? q = fs.get? q := by
  obtain ⟨entries, here⟩ := fs
  simp only [get?, put]
  split
  · rfl
  · induction entries with
    | nil => simpa [putEntry] using other
    | cons x rest ih =>
        obtain ⟨r, d⟩ := x
        by_cases same : r = p
        · simp [putEntry, same, List.lookup_cons, beq_eq_false_iff_ne.mpr other]
        · simp only [putEntry, if_neg same, List.lookup_cons]
          rw [ih]

theorem get?_removeTree_of_ne (named : q ≠ []) :
    (fs.removeTree top).get? q = if top.within q then none else fs.get? q := by
  rw [get?, get?, if_neg named, if_neg named]
  refine (lookup_filter_key (fun p => !top.within p) q fs.entries).trans ?_
  cases top.within q <;> simp

theorem get?_removeTree (below : top ≠ []) :
    (fs.removeTree top).get? q = if top.within q then none else fs.get? q := by
  by_cases root : q = []
  · have outside : top.within q = false := by
      rw [Place.within_eq_false_iff, root, List.prefix_nil]
      exact below
    rw [outside, root]
    rfl
  · exact get?_removeTree_of_ne root

theorem get?_clear :
    (fs.clear top).get? q = if q ≠ top ∧ top.within q then none else fs.get? q := by
  unfold get? clear
  split
  · rename_i root
    subst root
    rw [if_neg]
    rintro ⟨other, inside⟩
    exact other (List.prefix_nil.mp (Place.within_iff.mp inside)).symm
  · refine (lookup_filter_key (fun p => decide (p = top) || !top.within p) q fs.entries).trans ?_
    by_cases same : q = top
    · simp [same]
    · cases inside : top.within q <;> simp [same]

/-! ## What changes -/

/-- Nothing differs but at a place and below it. -/
structure SameOutside (top : Place) (fs fs' : Files) : Prop where
  here : fs'.here = fs.here
  entry : ∀ q, ¬ top <+: q → fs'.get? q = fs.get? q

theorem SameOutside.refl (top : Place) (fs : Files) : SameOutside top fs fs := ⟨rfl, fun _ _ => rfl⟩

theorem SameOutside.trans {a b c : Files} (first : SameOutside top a b) (second : SameOutside top b c) :
    SameOutside top a c :=
  ⟨second.here.trans first.here, fun q outside =>
    (second.entry q outside).trans (first.entry q outside)⟩

theorem sameOutside_put (inside : top <+: p) : SameOutside top fs (fs.put p e) :=
  ⟨rfl, fun _ outside => get?_put_ne fun same => outside (same ▸ inside)⟩

theorem sameOutside_removeTree (below : top ≠ []) : SameOutside top fs (fs.removeTree top) := by
  refine ⟨rfl, fun q outside => ?_⟩
  rw [get?_removeTree below, if_neg (by rwa [Place.within_iff])]

/-! ## Following names -/

/-- The place that is found. -/
def Spot.place : Spot → Place
  | .taken place => place
  | .free place => place

/-- Following one name more. -/
theorem follow_cons (start : Place) (name : Name) (rest : List Name) :
    fs.follow start (name :: rest) =
      match fs.get? start with
      | none => .error .notFound
      | some (.file ..) => .error .notDirectory
      | some .directory =>
        if name = Path.dot ∨ name = Path.dotDot then fs.follow (start.enter name) rest
        else if longestName < name.length then .error .nameTooLong
        else if (fs.get? (start.enter name)).isSome then fs.follow (start.enter name) rest
        else if rest = [] then .ok (.free (start.enter name))
        else .error .notFound := by
  rw [follow, Place.enter]
  cases fs.get? start with
  | none => rfl
  | some e =>
      cases e with
      | file content executable => rfl
      | directory =>
          by_cases dot : name = Path.dot
          · simp [dot]
          · by_cases dots : name = Path.dotDot
            · simp [dots, show Path.dotDot ≠ Path.dot by decide]
            · simp [dot, dots]

theorem follow_congr {fs fs' : Files} {start : Place} {names : List Name}
    (same : ∀ q ∈ start.trail names, fs'.get? q = fs.get? q) :
    fs'.follow start names = fs.follow start names := by
  induction names generalizing start with
  | nil => rfl
  | cons name rest ih =>
      have later : fs'.follow (start.enter name) rest = fs.follow (start.enter name) rest :=
        ih fun q member => same q (List.mem_cons_of_mem _ member)
      have next : fs'.get? (start.enter name) = fs.get? (start.enter name) := by
        refine same _ (List.mem_cons_of_mem _ ?_)
        cases rest <;> simp [Place.trail]
      rw [follow_cons, follow_cons, same start List.mem_cons_self, next, later]

/-- Names are followed through directories, to something that is there or to a free last
name. -/
theorem follow_cons_cases {start : Place} {name : Name} {rest : List Name} {spot : Spot}
    (found : fs.follow start (name :: rest) = .ok spot) :
    fs.get? start = some .directory ∧
      (fs.follow (start.enter name) rest = .ok spot ∨
        fs.get? (start.enter name) = none ∧ rest = [] ∧ spot = .free (start.enter name)) := by
  rw [follow_cons] at found
  split at found
  · cases found
  · cases found
  · refine ⟨‹_›, ?_⟩
    split at found
    · exact .inl found
    split at found
    · cases found
    split at found
    · exact .inl found
    split at found
    · exact .inr ⟨by simpa using ‹¬ (fs.get? _).isSome = true›, ‹_›, (Except.ok.inj found).symm⟩
    · cases found

theorem place_of_follow {start : Place} {names : List Name} {spot : Spot}
    (found : fs.follow start names = .ok spot) : spot.place = start.descend names := by
  induction names generalizing start with
  | nil =>
      obtain rfl := Except.ok.inj found
      rfl
  | cons name rest ih =>
      rcases (follow_cons_cases found).2 with later | ⟨-, rfl, rfl⟩
      · exact ih later
      · rfl

/-- What is found free is free. -/
theorem get?_of_follow_free {start place : Place} {names : List Name}
    (found : fs.follow start names = .ok (.free place)) : fs.get? place = none := by
  induction names generalizing start with
  | nil => cases Except.ok.inj found
  | cons name rest ih =>
      rcases (follow_cons_cases found).2 with later | ⟨absent, -, last⟩
      · exact ih later
      · obtain rfl := Spot.free.inj last
        exact absent

/-- A file put where names lead is what they lead to from then on. -/
theorem follow_put_file {start : Place} {names : List Name} {spot : Spot} {content : Bytes}
    {executable : Bool} (found : fs.follow start names = .ok spot)
    (ordinary : fs.get? spot.place ≠ some .directory) :
    (fs.put spot.place (.file content executable)).follow start names = .ok (.taken spot.place) := by
  have below : spot.place ≠ [] := by
    intro root
    rw [root] at ordinary
    exact ordinary rfl
  induction names generalizing start with
  | nil =>
      obtain rfl := Except.ok.inj found
      rfl
  | cons name rest ih =>
      rw [follow_cons] at found ⊢
      split at found
      · cases found
      · cases found
      · rename_i directory
        -- the way so far leads through directories only
        have elsewhere : start ≠ spot.place := by
          rintro rfl
          exact ordinary directory
        rw [get?_put_ne elsewhere, directory]
        simp only
        split at found
        · rw [if_pos ‹_›]
          exact ih found
        rw [if_neg ‹_›]
        split at found
        · cases found
        rw [if_neg ‹_›]
        have there : ((fs.get? (start.enter name)).isSome ∨ start.enter name = spot.place) →
            ((fs.put spot.place (.file content executable)).get? (start.enter name)).isSome := by
          intro either
          by_cases target : start.enter name = spot.place
          · rw [target, get?_put_self below]
            rfl
          · rw [get?_put_ne target]
            exact either.resolve_right target
        split at found
        · rw [if_pos (there (.inl ‹_›))]
          exact ih found
        split at found
        · rename_i last
          obtain rfl := Except.ok.inj found
          rw [if_pos (there (.inr rfl)), last]
          rfl
        · cases found

/-! ## Following paths -/

variable {path : Path}

theorem locate_eq_ok_iff {spot : Spot} :
    fs.locate path = .ok spot ↔
      path.Acceptable ∧ fs.follow (path.origin fs.here) path.names = .ok spot := by
  unfold locate Path.Acceptable
  split
  · simp [*]
  split
  · rename_i nul
    simp [List.contains_iff_mem.mp nul]
  split
  · simp [Nat.not_le.mpr ‹_›]
  · rename_i filled clean short
    have accepted : path.bytes ≠ [] ∧ 0 ∉ path.bytes ∧ path.bytes.length ≤ longestPath :=
      ⟨filled, by simpa using clean, Nat.not_lt.mp short⟩
    rw [mapError_eq_ok]
    exact ⟨fun found => ⟨accepted, found⟩, And.right⟩

theorem locate_congr {fs' : Files} (here : fs'.here = fs.here)
    (same : ∀ q ∈ path.trail fs.here, fs'.get? q = fs.get? q) : fs'.locate path = fs.locate path := by
  have follows : fs'.follow (path.origin fs.here) path.names =
      fs.follow (path.origin fs.here) path.names := follow_congr same
  unfold locate
  rw [here]
  unfold Path.origin at follows
  rw [follows]

theorem place_of_locate {spot : Spot} (found : fs.locate path = .ok spot) :
    spot.place = path.goal fs.here :=
  place_of_follow (locate_eq_ok_iff.mp found).2

theorem canonical_eq_ok_iff {place : Place} :
    fs.canonical path = .ok place ↔
      fs.locate path = .ok (.taken place) ∧ (fs.get? place).isSome := by
  unfold canonical
  cases fs.locate path with
  | error fault => simp [bind, Except.bind]
  | ok spot =>
      cases spot with
      | free place' => simp [bind, Except.bind, throw, throwThe, MonadExceptOf.throw]
      | taken place' =>
          by_cases there : (fs.get? place').isSome
          · simp only [bind, Except.bind, there, if_true, pure, Except.pure, Except.ok.injEq,
              Spot.taken.injEq]
            constructor
            · rintro rfl
              exact ⟨rfl, there⟩
            · exact And.left
          · simp only [bind, Except.bind, there, throw, throwThe, MonadExceptOf.throw]
            constructor
            · intro impossible
              cases impossible
            · rintro ⟨same, found⟩
              cases same
              exact absurd found there

theorem place_of_canonical {place : Place} (found : fs.canonical path = .ok place) :
    place = path.goal fs.here :=
  place_of_locate (canonical_eq_ok_iff.mp found).1

theorem canonical_congr {fs' : Files} (here : fs'.here = fs.here)
    (same : ∀ q ∈ path.trail fs.here, fs'.get? q = fs.get? q) :
    fs'.canonical path = fs.canonical path := by
  have located := locate_congr here same
  unfold canonical
  rw [located]
  cases found : fs.locate path with
  | error fault => rfl
  | ok spot =>
      cases spot with
      | free place => rfl
      | taken place =>
          have ends : place = path.goal fs.here := place_of_locate found
          have on_trail : place ∈ path.trail fs.here := ends ▸ Place.descend_mem_trail _ _
          simp only [bind, Except.bind, same place on_trail]

/-! ## Reading and writing -/

theorem read_of_file {place : Place} {content : Bytes} {executable : Bool}
    (found : fs.locate path = .ok (.taken place))
    (file : fs.get? place = some (.file content executable)) : fs.read path = .ok content := by
  have canonical : fs.canonical path = .ok place :=
    canonical_eq_ok_iff.mpr ⟨found, by rw [file]; rfl⟩
  unfold read
  rw [canonical]
  simp only [bind, Except.bind, file]
  rfl

/-- What is read depends on nothing but the way to it. -/
theorem read_congr {fs' : Files} (here : fs'.here = fs.here)
    (same : ∀ q ∈ path.trail fs.here, fs'.get? q = fs.get? q) : fs'.read path = fs.read path := by
  unfold read
  rw [canonical_congr here same]
  cases found : fs.canonical path with
  | error fault => rfl
  | ok place =>
      have on_trail : place ∈ path.trail fs.here :=
        place_of_canonical found ▸ Place.descend_mem_trail _ _
      simp only [bind, Except.bind, same place on_trail]

theorem readText?_congr {fs' : Files} (here : fs'.here = fs.here)
    (same : ∀ q ∈ path.trail fs.here, fs'.get? q = fs.get? q) :
    fs'.readText? path = fs.readText? path := by
  rw [readText?, readText?, read_congr here same]

/-- A file that is written stands where its path leads, and nothing else changes. -/
theorem write_eq_ok {fs' : Files} {content : Bytes} (written : fs.write path content = .ok fs') :
    ∃ executable, fs' = fs.put (path.goal fs.here) (.file content executable) ∧
      fs'.read path = .ok content := by
  unfold write at written
  cases found : fs.locate path with
  | error fault =>
      rw [found] at written
      cases written
  | ok spot =>
      obtain ⟨acceptable, follows⟩ := locate_eq_ok_iff.mp found
      have settle (executable : Bool) (ordinary : fs.get? spot.place ≠ some .directory)
          (put : fs' = fs.put spot.place (.file content executable)) :
          ∃ executable, fs' = fs.put (path.goal fs.here) (.file content executable) ∧
            fs'.read path = .ok content := by
        have below : spot.place ≠ [] := by
          intro root
          rw [root] at ordinary
          exact ordinary rfl
        refine ⟨executable, place_of_locate found ▸ put, ?_⟩
        subst put
        refine read_of_file (locate_eq_ok_iff.mpr ⟨acceptable, ?_⟩) (get?_put_self below)
        exact follow_put_file follows ordinary
      rw [found] at written
      cases spot with
      | free place =>
          obtain rfl := Except.ok.inj written
          refine settle false ?_ rfl
          rw [Spot.place, get?_of_follow_free follows]
          simp
      | taken place =>
          simp only [bind, Except.bind] at written
          split at written
          · rename_i old executable file
            obtain rfl := Except.ok.inj written
            refine settle executable ?_ rfl
            rw [Spot.place, file]
            simp
          · cases written
          · cases written

end Files

end Kickstart
