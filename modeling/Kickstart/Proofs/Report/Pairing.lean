/-
# Kickstart.Proofs.Report.Pairing -- which lines of a report name a place

A line names the place of a problem if it reports a line number, another line follows
it, and it is not itself the message of the line before (`Greedy`).  Whether an index
holds a place depends on the index before it, so exactly one set of indices meets this
rule (`greedy_iff`): in a run of location lines every other one is a place.

`pairs` finds these places in order and nothing else (`forall₂_pairs`).  Reading the
lines by index, with a check at every access, comes to the same (`iterate_turn`): the
reading ends on every list of lines, and it never asks for a line that is not there.
-/
import Mathlib.Data.List.Forall2
import Mathlib.Data.Set.Basic
import Mathlib.Logic.Function.Iterate
import Kickstart.Report.Parser

namespace Kickstart.Report

set_option autoImplicit false

/-! ## One pair at a time -/

theorem pairs_cons_of_place {place : Text} {n : Nat} (reported : reportedLine? place = some n)
    (message : Text) (rest : List Text) :
    pairs (place :: message :: rest) = (n, message) :: pairs rest := by
  rw [pairs, reported]

theorem pairs_cons_of_silent {line : Text} (silent : reportedLine? line = none) (ls : List Text) :
    pairs (line :: ls) = pairs ls := by
  cases ls with
  | nil => rfl
  | cons message rest => rw [pairs, silent]

theorem pairs_of_fewer {ls : List Text} (fewer : ls.length < 2) : pairs ls = [] := by
  match ls, fewer with
  | [], _ => rfl
  | [_], _ => rfl

/-- Lines that `pairs` does not look into are too few for a pair. -/
theorem length_lt_two {ls : List Text}
    (short : ∀ place message rest, ls = place :: message :: rest → False) : ls.length < 2 := by
  match ls, short with
  | [], _ => exact Nat.zero_lt_two
  | [line], _ => exact Nat.one_lt_two
  | place :: message :: rest, short => exact (short place message rest rfl).elim

/-! ## The rule -/

/-- A line at the index reports a number, and a line follows it. -/
def eligible (ls : List Text) (i : Nat) : Bool :=
  decide (i + 1 < ls.length) && (ls[i]?.bind reportedLine?).isSome

/-- Indices that hold places: those with a location line and a line behind it, unless the
index before holds a place. -/
def Greedy (ls : List Text) (places : Set Nat) : Prop :=
  ∀ i, i ∈ places ↔
    i + 1 < ls.length ∧ (ls[i]?.bind reportedLine?).isSome = true ∧ ∀ j, j + 1 = i → j ∉ places

/-- The index holds a place. -/
def isPlace (ls : List Text) : Nat → Bool
  | 0 => eligible ls 0
  | i + 1 => eligible ls (i + 1) && !isPlace ls i

theorem greedy_isPlace (ls : List Text) : Greedy ls {i | isPlace ls i = true} := by
  intro i
  cases i with
  | zero => simp [isPlace, eligible]
  | succ i => simp [isPlace, eligible, and_assoc]

/-- Two sets that meet the rule agree on every index, from the first one on. -/
theorem Greedy.unique {ls : List Text} {places others : Set Nat} (greedy : Greedy ls places)
    (greedy_others : Greedy ls others) : places = others := by
  ext i
  induction i with
  | zero =>
      rw [greedy, greedy_others]
      simp
  | succ i ih =>
      have before : (∀ j, j + 1 = i + 1 → j ∉ places) ↔ ∀ j, j + 1 = i + 1 → j ∉ others := by
        simp [ih]
      rw [greedy, greedy_others, before]

theorem greedy_iff {ls : List Text} {places : Set Nat} :
    Greedy ls places ↔ places = {i | isPlace ls i = true} := by
  constructor
  · intro greedy
    exact greedy.unique (greedy_isPlace ls)
  · rintro rfl
    exact greedy_isPlace ls

/-! ## What the pairs are -/

theorem eligible_drop (ls : List Text) (k i : Nat) :
    eligible (ls.drop k) i = eligible ls (k + i) := by
  have fits : i + 1 < ls.length - k ↔ k + i + 1 < ls.length := by omega
  simp [eligible, fits]

/-- Behind an index that holds no place, the rule starts anew. -/
theorem isPlace_drop {ls : List Text} {k : Nat} (free : isPlace ls k = false) (i : Nat) :
    isPlace ls (k + 1 + i) = isPlace (ls.drop (k + 1)) i := by
  induction i with
  | zero => simp [isPlace, eligible_drop, free]
  | succ i ih =>
      rw [← Nat.add_assoc, isPlace, isPlace, ih, eligible_drop]
      rfl

/-- The indices that hold places, in order. -/
def places (ls : List Text) : List Nat := (List.range ls.length).filter (isPlace ls)

/-- Behind a place there is a line. -/
theorem lt_length_of_isPlace {ls : List Text} {i : Nat} (holds : isPlace ls i = true) :
    i + 1 < ls.length := by
  have inside : eligible ls i = true := by
    cases i with
    | zero => exact holds
    | succ i => exact (Bool.and_eq_true_iff.mp holds).1
  rw [eligible, Bool.and_eq_true, decide_eq_true_eq] at inside
  exact inside.1

theorem mem_places {ls : List Text} {i : Nat} : i ∈ places ls ↔ isPlace ls i = true := by
  rw [places, List.mem_filter, List.mem_range, and_iff_right_iff_imp]
  intro holds
  exact Nat.lt_of_succ_lt (lt_length_of_isPlace holds)

theorem places_of_free {line : Text} {ls : List Text} (free : isPlace (line :: ls) 0 = false) :
    places (line :: ls) = (places ls).map (· + 1) := by
  have later : ∀ i, isPlace (line :: ls) (i + 1) = isPlace ls i := by
    intro i
    rw [Nat.add_comm]
    exact isPlace_drop free i
  simp [places, List.range_succ_eq_map, free, List.filter_map, Function.comp_def, later]

theorem places_of_place {place message : Text} {rest : List Text}
    (holds : isPlace (place :: message :: rest) 0 = true) :
    places (place :: message :: rest) = 0 :: (places rest).map (· + 2) := by
  have taken : isPlace (place :: message :: rest) 1 = false := by
    rw [isPlace, holds, Bool.not_true, Bool.and_false]
  have later : ∀ i, isPlace (place :: message :: rest) (i + 2) = isPlace rest i := by
    intro i
    rw [Nat.add_comm]
    exact isPlace_drop taken i
  simp [places, List.range_succ_eq_map, holds, taken, List.filter_map, Function.comp_def, later]

theorem places_of_fewer {ls : List Text} (fewer : ls.length < 2) : places ls = [] := by
  rw [places, List.filter_eq_nil_iff]
  intro i member holds
  have inside := lt_length_of_isPlace holds
  omega

/-- The problem that has its place at an index. -/
def ProblemAt (ls : List Text) (i : Nat) (problem : Nat × Text) : Prop :=
  ls[i]?.bind reportedLine? = some problem.1 ∧ ls[i + 1]? = some problem.2

/-- **The pairs are the problems of the places**, in order and nothing else. -/
theorem forall₂_pairs (ls : List Text) : List.Forall₂ (ProblemAt ls) (places ls) (pairs ls) := by
  -- along the pairing: two lines are taken behind a location, one elsewhere
  induction ls using pairs.induct with
  | case1 place message rest n reported ih =>
      have holds : isPlace (place :: message :: rest) 0 = true := by
        simp [isPlace, eligible, reported]
      rw [places_of_place holds, pairs_cons_of_place reported]
      refine .cons ⟨by simpa using reported, rfl⟩ ?_
      rw [List.forall₂_map_left_iff]
      exact ih
  | case2 place message rest silent ih =>
      have free : isPlace (place :: message :: rest) 0 = false := by
        simp [isPlace, eligible, silent]
      rw [places_of_free free, pairs_cons_of_silent silent, List.forall₂_map_left_iff]
      exact ih
  | case3 ls short =>
      rw [places_of_fewer (length_lt_two short), pairs_of_fewer (length_lt_two short)]
      exact .nil

/-- In a run of location lines every other one is a place. -/
example : places ["on line 1 of".toList, "on line 2 of".toList, "on line 3 of".toList, "x".toList] =
    [0, 2] := by decide

/-! ## Reading by index -/

/-- How far a reading by index has come. -/
inductive Reading where
  /-- Before the line of an index, with the diagnostics of the lines before it. -/
  | before (next : Nat) (found : List Diagnostic)
  /-- Too few lines are left. -/
  | finished (found : List Diagnostic)
  /-- A line was asked for that is not there. -/
  | outside

/-- One turn: a location line is read with the line behind it, any other line alone. -/
def Reading.turn (related : Option Uri) (ls : List Text) : Reading → Reading
  | .before next found =>
    if next + 1 < ls.length then
      match ls[next]? with
      | none => .outside
      | some place =>
        match reportedLine? place with
        | none => .before (next + 1) found
        | some n =>
          match ls[next + 1]? with
          | none => .outside
          | some message => .before (next + 2) (found ++ [diagnostic related (n, message)])
    else .finished found
  | .finished found => .finished found
  | .outside => .outside

namespace Reading

variable {related : Option Uri} {ls : List Text}

theorem turn_of_two {next : Nat} {place message : Text} {rest : List Text}
    (left : ls.drop next = place :: message :: rest) (found : List Diagnostic) :
    turn related ls (.before next found) =
      match reportedLine? place with
      | none => .before (next + 1) found
      | some n => .before (next + 2) (found ++ [diagnostic related (n, message)]) := by
  have inside : next + 1 < ls.length := by
    have lengths := congrArg List.length left
    simp only [List.length_drop, List.length_cons] at lengths
    omega
  have here : ls[next]? = some place := by
    rw [← Nat.add_zero next, ← List.getElem?_drop, left, List.getElem?_cons_zero]
  have behind : ls[next + 1]? = some message := by
    rw [← List.getElem?_drop, left, List.getElem?_cons_succ, List.getElem?_cons_zero]
  simp only [turn, if_pos inside, here, behind]

theorem turn_of_fewer {next : Nat} (left : (ls.drop next).length < 2) (found : List Diagnostic) :
    turn related ls (.before next found) = .finished found := by
  rw [List.length_drop] at left
  rw [turn, if_neg (by omega)]

/-- **A reading from any line on ends**, with the diagnostics of the pairs from there on. -/
theorem iterate_turn (related : Option Uri) (ls : List Text) (next : Nat)
    (found : List Diagnostic) :
    ∃ turns ≤ (ls.drop next).length + 1, (turn related ls)^[turns] (.before next found) =
      .finished (found ++ (pairs (ls.drop next)).map (diagnostic related)) := by
  generalize left : ls.drop next = tail
  induction tail using pairs.induct generalizing next found with
  | case1 place message rest n reported ih =>
      obtain ⟨turns, few, ends⟩ := ih (next + 2) (found ++ [diagnostic related (n, message)])
        (by rw [← List.drop_drop, left]; rfl)
      refine ⟨turns + 1, by simp only [List.length_cons]; omega, ?_⟩
      rw [Function.iterate_succ_apply, turn_of_two left, reported, pairs_cons_of_place reported]
      simpa using ends
  | case2 place message rest silent ih =>
      obtain ⟨turns, few, ends⟩ := ih (next + 1) found (by rw [← List.drop_drop, left]; rfl)
      refine ⟨turns + 1, by simp only [List.length_cons] at few ⊢; omega, ?_⟩
      rw [Function.iterate_succ_apply, turn_of_two left, silent, pairs_cons_of_silent silent]
      exact ends
  | case3 tail short =>
      have fewer := length_lt_two short
      refine ⟨1, Nat.le_add_left _ _, ?_⟩
      rw [Function.iterate_one, turn_of_fewer (left ▸ fewer), pairs_of_fewer fewer, List.map_nil,
        List.append_nil]

end Reading

/-! ## The whole report -/

/-- **Pairing is greedy and does not overlap.**  Of the lines of a report that are not empty,
one set of indices and no other meets the rule of places.  There is one diagnostic for each
index of this set, in increasing order, and no other: it covers the whole reported line,
counted from zero, and holds the line behind the place, trimmed.  Reading by index finds the
same diagnostics, in no more turns than there are lines and one to notice the end, and
without asking for a line that is not there. -/
theorem pairing_greedy (report : Text) (related : Option Uri) :
    let ls := spoken report
    ∃ held : Set Nat, (∀ others, Greedy ls others ↔ others = held) ∧
      (∃ order : List Nat, order.Pairwise (· < ·) ∧ (∀ i, i ∈ order ↔ i ∈ held) ∧
        List.Forall₂
          (fun i d => ∃ place message n, ls[i]? = some place ∧ ls[i + 1]? = some message ∧
            reportedLine? place = some n ∧
            d = { range := .wholeLine (max n 1 - 1)
                  severity := .warning
                  source := "ksvalidator"
                  message := message.trim
                  related := related.map fun u =>
                    [⟨u, .wholeLine (max n 1 - 1), "ksvalidator considers this line invalid"⟩] })
          order (diagnostics report related)) ∧
      ∃ turns ≤ ls.length + 1, (Reading.turn related ls)^[turns] (.before 0 []) =
        .finished (diagnostics report related) := by
  intro ls
  refine ⟨{i | isPlace ls i = true}, fun others => greedy_iff, ?_, ?_⟩
  · refine ⟨places ls, List.pairwise_lt_range.filter _, fun i => mem_places, ?_⟩
    rw [diagnostics, List.forall₂_map_right_iff]
    refine (forall₂_pairs ls).imp ?_
    rintro i ⟨n, message⟩ ⟨reported, behind⟩
    obtain ⟨place, here, number⟩ := Option.bind_eq_some_iff.mp reported
    refine ⟨place, message, n, here, behind, number, ?_⟩
    have zero : max n 1 - 1 = n - 1 := by omega
    rw [zero]
    rfl
  · obtain ⟨turns, few, ends⟩ := Reading.iterate_turn related ls 0 []
    exact ⟨turns, few, ends⟩

end Kickstart.Report
