/-
# Kickstart.Proofs.Files.Path -- where paths lead

A path is followed name by name from where it starts, and the places it goes through are
known before any file is looked at: `Path.trail` lists them and `Path.goal` is the last.
All that files can decide is whether the path can be followed at all.

A place that holds proper names only is the goal of the path that is written for it
(`goal_ofPlace`), and that path leads straight down (`trail_ofPlace`).  A proper working
directory makes every goal proper (`proper_goal`).
-/
import Kickstart.Files.Tree

namespace Kickstart

set_option autoImplicit false

namespace Path

/-- What a directory entry can be called. -/
def IsName (name : Name) : Prop := name ≠ [] ∧ slash ∉ name ∧ name ≠ dot ∧ name ≠ dotDot

instance (name : Name) : Decidable (IsName name) := inferInstanceAs (Decidable (_ ∧ _ ∧ _ ∧ _))

end Path

namespace Place

/-- All its names can be names. -/
def Proper (p : Place) : Prop := ∀ name ∈ p, Path.IsName name

instance (p : Place) : Decidable p.Proper := inferInstanceAs (Decidable (∀ name ∈ p, _))

/-- One name further: dots stay, or go back up. -/
def enter (p : Place) (name : Name) : Place :=
  if name = Path.dot then p else if name = Path.dotDot then p.dropLast else p ++ [name]

/-- The places on the way from a place through names, both ends included. -/
def trail (p : Place) : List Name → List Place
  | [] => [p]
  | name :: rest => p :: trail (p.enter name) rest

/-- Where names lead from a place. -/
def descend (p : Place) (names : List Name) : Place := names.foldl enter p

theorem within_iff {top p : Place} : top.within p = true ↔ top <+: p := List.isPrefixOf_iff_prefix

theorem within_eq_false_iff {top p : Place} : top.within p = false ↔ ¬ top <+: p := by
  rw [← within_iff, Bool.not_eq_true]

theorem enter_of_isName (p : Place) {name : Name} (is_name : Path.IsName name) :
    p.enter name = p ++ [name] := by
  rw [enter, if_neg is_name.2.2.1, if_neg is_name.2.2.2]

theorem descend_of_proper {p names : Place} (proper : names.Proper) :
    p.descend names = p ++ names := by
  induction names generalizing p with
  | nil => simp [descend]
  | cons name rest ih =>
      have here := enter_of_isName p (proper name List.mem_cons_self)
      have later := ih (p := p ++ [name]) fun n member => proper n (List.mem_cons_of_mem _ member)
      rw [descend, List.foldl_cons, here]
      simpa [descend] using later

/-- Proper names lead straight down. -/
theorem mem_trail_of_proper {p q names : Place} (proper : names.Proper)
    (member : q ∈ p.trail names) : p <+: q ∧ q <+: p ++ names := by
  induction names generalizing p with
  | nil =>
      rw [List.mem_singleton.mp member]
      exact ⟨List.prefix_refl p, List.prefix_append p []⟩
  | cons name rest ih =>
      rcases List.mem_cons.mp member with rfl | later
      · exact ⟨List.prefix_refl q, List.prefix_append q _⟩
      · rw [enter_of_isName p (proper name List.mem_cons_self)] at later
        obtain ⟨above, below⟩ := ih (fun n member => proper n (List.mem_cons_of_mem _ member)) later
        refine ⟨(List.prefix_append p [name]).trans above, ?_⟩
        simpa using below

theorem descend_mem_trail (p : Place) (names : List Name) : p.descend names ∈ p.trail names := by
  induction names generalizing p with
  | nil => exact List.mem_singleton.mpr rfl
  | cons name rest ih => exact List.mem_cons_of_mem _ (ih (p.enter name))

/-- Names without slashes lead from a proper place to a proper one. -/
theorem proper_descend {p : Place} {names : List Name} (proper : p.Proper)
    (pieces : ∀ name ∈ names, name ≠ [] ∧ Path.slash ∉ name) : (p.descend names).Proper := by
  induction names generalizing p with
  | nil => exact proper
  | cons name rest ih =>
      refine ih ?_ fun n member => pieces n (List.mem_cons_of_mem _ member)
      unfold enter
      split
      · exact proper
      · rename_i no_dot
        split
        · exact fun n member => proper n ((List.dropLast_sublist p).subset member)
        · rename_i no_dots
          intro n member
          rcases List.mem_append.mp member with old | new
          · exact proper n old
          · obtain ⟨filled, clean⟩ := pieces name List.mem_cons_self
            rw [List.mem_singleton.mp new]
            exact ⟨filled, clean, no_dot, no_dots⟩

end Place

namespace Path

/-! ## Slashes -/

theorem splitSlash_ne_nil (bytes : Bytes) : splitSlash bytes ≠ [] := by
  cases bytes with
  | nil => simp [splitSlash]
  | cons b rest =>
      unfold splitSlash
      split
      · simp
      · split <;> simp

theorem slash_not_mem_of_mem_splitSlash {bytes : Bytes} {piece : Name}
    (member : piece ∈ splitSlash bytes) : slash ∉ piece := by
  induction bytes generalizing piece with
  | nil =>
      simp only [splitSlash, List.mem_singleton] at member
      simp [member]
  | cons b rest ih =>
      unfold splitSlash at member
      split at member
      · rcases List.mem_cons.mp member with rfl | later
        · exact List.not_mem_nil
        · exact ih later
      · rename_i other
        split at member
        · rename_i nothing
          exact absurd nothing (splitSlash_ne_nil rest)
        · rename_i first pieces split
          rcases List.mem_cons.mp member with rfl | later
          · have clean := ih (split ▸ List.mem_cons_self)
            simp [Ne.symm other, clean]
          · exact ih (split ▸ List.mem_cons_of_mem _ later)

theorem splitSlash_append_slash {name : Name} (clean : slash ∉ name) (rest : Bytes) :
    splitSlash (name ++ slash :: rest) = name :: splitSlash rest := by
  induction name with
  | nil => simp [splitSlash]
  | cons b name ih =>
      simp only [List.mem_cons, not_or] at clean
      rw [List.cons_append, splitSlash, if_neg (Ne.symm clean.1), ih clean.2]

theorem splitSlash_of_clean {name : Name} (clean : slash ∉ name) : splitSlash name = [name] := by
  induction name with
  | nil => rfl
  | cons b name ih =>
      simp only [List.mem_cons, not_or] at clean
      rw [splitSlash, if_neg (Ne.symm clean.1), ih clean.2]

/-- The bytes of a path from the root hold its names. -/
theorem splitSlash_names {p : Place} (proper : p.Proper) {name : Name} (clean : slash ∉ name) :
    splitSlash (name ++ p.flatMap fun name => slash :: name) = name :: p := by
  induction p generalizing name with
  | nil => simpa using splitSlash_of_clean clean
  | cons next rest ih =>
      have clean_next : slash ∉ next := (proper next List.mem_cons_self).2.1
      rw [List.flatMap_cons, List.cons_append, splitSlash_append_slash clean,
        ih (fun n member => proper n (List.mem_cons_of_mem _ member)) clean_next]

/-! ## The path to a place -/

variable {p : Place}

theorem given_ofPlace (proper : p.Proper) : (ofPlace p).given = p := by
  unfold given ofPlace
  split
  · rename_i root
    subst root
    decide
  · have split := splitSlash_names proper (List.not_mem_nil (a := slash))
    rw [List.nil_append] at split
    rw [split, List.filter_cons_of_neg (by simp), List.filter_eq_self]
    intro name member
    simpa using (proper name member).1

theorem getLast?_ofPlace (proper : p.Proper) (below : p ≠ []) :
    (ofPlace p).bytes.getLast? ≠ some slash := by
  obtain ⟨front, last, rfl⟩ : ∃ front last, p = front ++ [last] :=
    ⟨p.dropLast, p.getLast below, (List.dropLast_concat_getLast below).symm⟩
  have is_name := proper last (by simp)
  intro ends
  simp only [ofPlace, below, if_false, List.flatMap_append, List.flatMap_singleton,
    List.getLast?_append] at ends
  rw [List.getLast?_cons, Option.some_or, Option.some.injEq,
    List.getLast?_eq_some_getLast is_name.1, Option.getD_some] at ends
  exact is_name.2.1 (ends ▸ List.getLast_mem is_name.1)

theorem names_ofPlace (proper : p.Proper) (below : p ≠ []) : (ofPlace p).names = p := by
  rw [names, if_neg (getLast?_ofPlace proper below), given_ofPlace proper]

theorem isAbsolute_ofPlace (p : Place) : (ofPlace p).isAbsolute = true := by
  unfold isAbsolute ofPlace
  cases p <;> simp

theorem parent?_ofPlace (proper : p.Proper) (below : p ≠ []) :
    (ofPlace p).parent? = some (ofPlace p.dropLast) := by
  unfold parent?
  rw [given_ofPlace proper]
  cases p with
  | nil => exact absurd rfl below
  | cons name rest => simp [isAbsolute_ofPlace]

/-! ## Where a path leads -/

/-- The place a path starts from. -/
def origin (here : Place) (path : Path) : Place := if path.isAbsolute then [] else here

/-- The places on the way of a path. -/
def trail (here : Place) (path : Path) : List Place := (path.origin here).trail path.names

/-- The place a path leads to, if it can be followed. -/
def goal (here : Place) (path : Path) : Place := (path.origin here).descend path.names

theorem proper_goal {here : Place} (proper : here.Proper) (path : Path) :
    (path.goal here).Proper := by
  have start : (path.origin here).Proper := by
    unfold origin
    split
    · intro name member
      cases member
    · exact proper
  have pieces : ∀ name ∈ path.names, name ≠ [] ∧ slash ∉ name := by
    have given : ∀ name ∈ path.given, name ≠ [] ∧ slash ∉ name := by
      intro name member
      obtain ⟨piece, filled⟩ := List.mem_filter.mp member
      exact ⟨by simpa using filled, slash_not_mem_of_mem_splitSlash piece⟩
    intro name member
    unfold names at member
    split at member
    · rcases List.mem_append.mp member with inside | last
      · exact given name inside
      · rw [List.mem_singleton.mp last]
        decide
    · exact given name member
  exact Place.proper_descend start pieces

theorem goal_ofPlace (here : Place) (proper : p.Proper) (below : p ≠ []) :
    (ofPlace p).goal here = p := by
  rw [goal, origin, isAbsolute_ofPlace, if_pos rfl, names_ofPlace proper below,
    Place.descend_of_proper proper, List.nil_append]

theorem trail_ofPlace {here q : Place} (proper : p.Proper) (below : p ≠ [])
    (member : q ∈ (ofPlace p).trail here) : q <+: p := by
  rw [trail, origin, isAbsolute_ofPlace, if_pos rfl, names_ofPlace proper below] at member
  exact (Place.mem_trail_of_proper proper member).2

end Path

end Kickstart
