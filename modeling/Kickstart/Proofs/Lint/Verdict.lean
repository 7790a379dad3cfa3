/-
# Kickstart.Proofs.Lint.Verdict -- what linting says about a list of files

Files are checked one after the other, each in the state that the checks before it left
(`Machine.turns`).  A file can be checked if it is there and the run on it does not fail
(`Machine.Checkable`), and then the check finds problems exactly if the run rejects the file
(`problems_eq_nil_iff`).

Linting goes through the turns up to the first file that cannot be checked (`lint_append`,
`lint_of_stopped`).  So there are three endings, and the turns tell which of them it is:
success, a count of problems, or the failure of one check.
-/
import Kickstart.Proofs.Lint
import Kickstart.Validator.Program

namespace Kickstart

set_option autoImplicit false

/-! ## Turns -/

namespace Machine

variable {σ : Type} (m : Machine σ)

/-- The files with the states in which their turn comes, if no check ends it all. -/
def turns : σ → List Path → List (σ × Path)
  | _, [] => []
  | x, p :: rest => (x, p) :: turns (checkFile m x p).state rest

/-- The state after the checks of files. -/
def after : σ → List Path → σ
  | x, [] => x
  | x, p :: rest => after (checkFile m x p).state rest

/-- The file is there. -/
def present (turn : σ × Path) : Bool := (m.files turn.1).exists? turn.2

/-- How the run on the file ends. -/
def verdict (turn : σ × Path) : Verdict := (m.run turn.1 turn.2).1

/-- The file is there, and the run on it does not fail. -/
def Checkable (turn : σ × Path) : Prop :=
  m.present turn = true ∧ ∃ rejected, m.verdict turn = .ok rejected

/-- The run ends with a report. -/
def rejects (turn : σ × Path) : Bool :=
  match m.verdict turn with
  | .ok (some _) => true
  | _ => false

/-- The problems that the check finds. -/
def problems (turn : σ × Path) : List Problem :=
  (checkFile m turn.1 turn.2).result.toOption.getD []

variable {m} {turn : σ × Path}

theorem rejects_iff : m.rejects turn = true ↔ ∃ report, m.verdict turn = .ok (some report) := by
  rw [rejects]
  split
  · rename_i report judged
    simp [judged]
  · rename_i other
    simpa using other

theorem result_of_checkable (checkable : m.Checkable turn) :
    (checkFile m turn.1 turn.2).result = .ok (m.problems turn) := by
  obtain ⟨present, rejected, judged⟩ := checkable
  have result := result_checkFile present
  rw [← verdict, judged] at result
  rw [problems, result]
  rfl

/-- A check that finds no problem is a check of a clean file. -/
theorem problems_eq_nil_iff (checkable : m.Checkable turn) :
    m.problems turn = [] ↔ m.verdict turn = .ok none := by
  obtain ⟨present, rejected, judged⟩ := checkable
  have result := result_checkFile present
  rw [← verdict, judged] at result
  rw [problems, result, judged]
  cases rejected with
  | none => exact ⟨fun _ => rfl, fun _ => rfl⟩
  | some report =>
      constructor
      · intro nothing
        exact absurd nothing (Problem.ofReport_ne_nil report)
      · intro clean
        cases clean

/-- A check that fails does so for want of the file or with the failure of the run. -/
theorem result_of_not_checkable (fails : ¬ m.Checkable turn) :
    ∃ failure, (checkFile m turn.1 turn.2).result = .error failure ∧
      (m.present turn = false ∧ failure = .io (.absent turn.2.text) ∨
        m.present turn = true ∧ m.verdict turn = .error failure) := by
  cases present : m.present turn with
  | false =>
      refine ⟨.io (.absent turn.2.text), ?_, .inl ⟨rfl, rfl⟩⟩
      rw [checkFile, if_neg (by rw [← Machine.present, present]; exact Bool.false_ne_true)]
  | true =>
      cases judged : m.verdict turn with
      | ok rejected => exact absurd ⟨present, rejected, judged⟩ fails
      | error failure =>
          have result := result_checkFile present
          rw [← verdict, judged] at result
          exact ⟨failure, result, .inr ⟨rfl, rfl⟩⟩

theorem ran_checkFile (turn : σ × Path) : (checkFile m turn.1 turn.2).ran = m.present turn := by
  rw [checkFile, present]
  split
  · rename_i there
    rw [there]
    obtain ⟨judged, y⟩ := m.run turn.1 turn.2
    cases judged with
    | error failure => rfl
    | ok rejected => cases rejected <;> rfl
  · rename_i absent
    simp [absent]

theorem turns_append (x : σ) (before rest : List Path) :
    m.turns x (before ++ rest) = m.turns x before ++ m.turns (m.after x before) rest := by
  induction before generalizing x with
  | nil => rfl
  | cons p before ih => rw [List.cons_append, turns, turns, after, ih, List.cons_append]

/-- Either all files can be checked, or there is a first one that cannot. -/
theorem exists_first (x : σ) (files : List Path) :
    (∀ turn ∈ m.turns x files, m.Checkable turn) ∨
      ∃ before p rest, files = before ++ p :: rest ∧
        (∀ turn ∈ m.turns x before, m.Checkable turn) ∧ ¬ m.Checkable (m.after x before, p) := by
  induction files generalizing x with
  | nil => exact .inl nofun
  | cons p rest ih =>
      by_cases first : m.Checkable (x, p)
      · rcases ih (checkFile m x p).state with all | ⟨before, q, later, rfl, passed, fails⟩
        · exact .inl (List.forall_mem_cons.mpr ⟨first, all⟩)
        · refine .inr ⟨p :: before, q, later, rfl, ?_, fails⟩
          exact List.forall_mem_cons.mpr ⟨first, passed⟩
      · exact .inr ⟨[], p, rest, rfl, nofun, first⟩

end Machine

/-- A program that is run never fails with a number of problems. -/
theorem Program.verdict_ne_lintFailed (behaviour : Behaviour) (p : Program) (turn : Files × Path)
    (n : Nat) : (p.machine behaviour).verdict turn ≠ .error (.lintFailed n) := by
  show (p.check turn.1 behaviour turn.2).1 ≠ .error (.lintFailed n)
  rw [Program.check]
  split
  · nofun
  · split <;> nofun

/-! ## Linting -/

section Lint

open Machine

variable {σ : Type} {m : Machine σ} {x : σ}

/-- What linting adds to its record for files that can be checked. -/
theorem lint_append {before : List Path} (passed : ∀ turn ∈ m.turns x before, m.Checkable turn)
    (rest : List Path) :
    lint m x (before ++ rest) =
      { lint m (m.after x before) rest with
        checked := (m.turns x before).map (fun turn => (turn.2, m.problems turn)) ++
          (lint m (m.after x before) rest).checked
        runs := before ++ (lint m (m.after x before) rest).runs } := by
  induction before generalizing x with
  | nil => rfl
  | cons p before ih =>
      obtain ⟨first, others⟩ := List.forall_mem_cons.mp passed
      have result := result_of_checkable first
      have ran := ran_checkFile (m := m) (x, p)
      rw [first.1] at ran
      rw [List.cons_append, lint]
      simp only [result, ran, ih others, if_true]
      rfl

/-- Linting files that can all be checked. -/
theorem lint_of_checkable {files : List Path} (passed : ∀ turn ∈ m.turns x files, m.Checkable turn) :
    lint m x files =
      ⟨(m.turns x files).map fun turn => (turn.2, m.problems turn), files, none,
        m.after x files⟩ := by
  have whole := lint_append passed []
  simpa [lint] using whole

/-- Linting stops at the first file that cannot be checked. -/
theorem lint_of_stopped {before : List Path} {p : Path} {failure : Failure}
    (passed : ∀ turn ∈ m.turns x before, m.Checkable turn)
    (fails : (checkFile m (m.after x before) p).result = .error failure) (rest : List Path) :
    lint m x (before ++ p :: rest) =
      ⟨(m.turns x before).map fun turn => (turn.2, m.problems turn),
        before ++ if m.present (m.after x before, p) then [p] else [], some failure,
        (checkFile m (m.after x before) p).state⟩ := by
  have ran := ran_checkFile (m := m) (m.after x before, p)
  rw [lint_append passed, lint]
  simp only [fails, ran, List.append_nil]

theorem total_eq_length (run : LintRun σ) :
    run.total = (run.checked.flatMap fun entry => entry.2).length := by
  rw [LintRun.total]
  induction run.checked with
  | nil => rfl
  | cons entry rest ih => rw [List.foldr_cons, ih, List.flatMap_cons, List.length_append]

/-- The result for files that can all be checked is a matter of how many problems there are. -/
theorem result_of_all_checkable {files : List Path}
    (passed : ∀ turn ∈ m.turns x files, m.Checkable turn) :
    (lint m x files).result =
      if ((m.turns x files).flatMap m.problems).length = 0 then .ok ()
      else .error (.lintFailed ((m.turns x files).flatMap m.problems).length) := by
  rw [LintRun.result, total_eq_length, lint_of_checkable passed]
  simp only [List.flatMap_map]

/-- There is no problem at all exactly if every run was clean. -/
theorem length_problems_eq_zero_iff {turns : List (σ × Path)}
    (passed : ∀ turn ∈ turns, m.Checkable turn) :
    (turns.flatMap m.problems).length = 0 ↔ ∀ turn ∈ turns, m.verdict turn = .ok none := by
  rw [List.length_eq_zero_iff, List.flatMap_eq_nil_iff]
  refine forall_congr' fun turn => forall_congr' fun member => ?_
  exact problems_eq_nil_iff (passed turn member)

/-- Every run that rejects its file adds to the problems. -/
theorem countP_rejects_le {turns : List (σ × Path)} (passed : ∀ turn ∈ turns, m.Checkable turn) :
    turns.countP m.rejects ≤ (turns.flatMap m.problems).length := by
  induction turns with
  | nil => exact Nat.le_refl 0
  | cons turn rest ih =>
      obtain ⟨first, others⟩ := List.forall_mem_cons.mp passed
      have later := ih others
      rw [List.countP_cons, List.flatMap_cons, List.length_append]
      split
      · rename_i rejected
        have some_problem : m.problems turn ≠ [] := by
          intro nothing
          obtain ⟨report, judged⟩ := rejects_iff.mp rejected
          rw [(problems_eq_nil_iff first).mp nothing] at judged
          cases judged
        have := List.length_pos_iff.mpr some_problem
        omega
      · omega

/-- Some file is rejected exactly if not all of them are clean. -/
theorem exists_rejects_iff {turns : List (σ × Path)} (passed : ∀ turn ∈ turns, m.Checkable turn) :
    (∃ turn ∈ turns, m.rejects turn = true) ↔ ¬ ∀ turn ∈ turns, m.verdict turn = .ok none := by
  constructor
  · rintro ⟨turn, member, rejected⟩ clean
    obtain ⟨report, judged⟩ := rejects_iff.mp rejected
    rw [clean turn member] at judged
    cases judged
  · intro not_clean
    simp only [Classical.not_forall] at not_clean
    obtain ⟨turn, member, unclean⟩ := not_clean
    obtain ⟨-, rejected, judged⟩ := passed turn member
    cases rejected with
    | none => exact absurd judged unclean
    | some report => exact ⟨turn, member, rejects_iff.mpr ⟨report, judged⟩⟩

/-! ## The three endings -/

/-- Where not all files can be checked, the first that cannot ends it. -/
theorem lint_stops {files : List Path} (stops : ∃ turn ∈ m.turns x files, ¬ m.Checkable turn) :
    ∃ before p rest failure, files = before ++ p :: rest ∧
      (∀ turn ∈ m.turns x before, m.Checkable turn) ∧
      (m.present (m.after x before, p) = false ∧ failure = .io (.absent p.text) ∨
        m.present (m.after x before, p) = true ∧
          m.verdict (m.after x before, p) = .error failure) ∧
      (checkFile m (m.after x before) p).result = .error failure ∧
      lint m x files =
        ⟨(m.turns x before).map fun turn => (turn.2, m.problems turn),
          before ++ if m.present (m.after x before, p) then [p] else [], some failure,
          (checkFile m (m.after x before) p).state⟩ := by
  rcases exists_first x files with all | ⟨before, p, rest, rfl, passed, fails⟩
  · obtain ⟨turn, member, fails⟩ := stops
    exact absurd (all turn member) fails
  · obtain ⟨failure, result, cause⟩ := result_of_not_checkable fails
    exact ⟨before, p, rest, failure, rfl, passed, cause, result, lint_of_stopped passed result rest⟩

theorem map_fst_checked (x : σ) (files : List Path) :
    ((m.turns x files).map fun turn => (turn.2, m.problems turn)).map Prod.fst = files := by
  induction files generalizing x with
  | nil => rfl
  | cons p rest ih => exact congrArg (p :: ·) (ih _)

theorem result_eq_ok_iff (files : List Path) :
    (lint m x files).result = .ok () ↔
      ∀ turn ∈ m.turns x files, m.present turn = true ∧ m.verdict turn = .ok none := by
  by_cases all : ∀ turn ∈ m.turns x files, m.Checkable turn
  · have none_found_iff := length_problems_eq_zero_iff all
    rw [result_of_all_checkable all]
    constructor
    · intro success turn member
      split at success
      · rename_i none_found
        exact ⟨(all turn member).1, none_found_iff.mp none_found turn member⟩
      · cases success
    · intro clean
      rw [if_pos (none_found_iff.mpr fun turn member => (clean turn member).2)]
  · simp only [Classical.not_forall] at all
    obtain ⟨turn, member, fails⟩ := all
    constructor
    · intro success
      obtain ⟨_, _, _, _, -, -, -, -, stopped⟩ := lint_stops ⟨turn, member, fails⟩
      rw [stopped] at success
      cases success
    · intro clean
      exact absurd ⟨(clean turn member).1, none, (clean turn member).2⟩ fails

theorem result_of_rejects {files : List Path} (all : ∀ turn ∈ m.turns x files, m.Checkable turn)
    (rejected : ∃ turn ∈ m.turns x files, m.rejects turn = true) :
    (lint m x files).result =
      .error (.lintFailed ((m.turns x files).flatMap m.problems).length) := by
  rw [result_of_all_checkable all, if_neg]
  rw [length_problems_eq_zero_iff all]
  exact (exists_rejects_iff all).mp rejected

theorem checkable_of_lintFailed {files : List Path} {n : Nat}
    (genuine : ∀ turn ∈ m.turns x files, m.verdict turn ≠ .error (.lintFailed n))
    (failed : (lint m x files).result = .error (.lintFailed n)) :
    ∀ turn ∈ m.turns x files, m.Checkable turn := by
  intro turn member
  refine Classical.byContradiction fun fails => ?_
  obtain ⟨before, p, rest, failure, rfl, -, cause, -, stopped⟩ := lint_stops ⟨turn, member, fails⟩
  rw [stopped] at failed
  obtain rfl : failure = .lintFailed n := Except.error.inj failed
  rcases cause with ⟨-, absent⟩ | ⟨-, judged⟩
  · cases absent
  · have here : (m.after x before, p) ∈ m.turns x (before ++ p :: rest) := by
      rw [turns_append]
      exact List.mem_append_right _ List.mem_cons_self
    exact genuine _ here judged

/-- Only problems make linting fail with a number of problems. -/
theorem result_eq_lintFailed_iff {files : List Path} {n : Nat}
    (genuine : ∀ turn ∈ m.turns x files, m.verdict turn ≠ .error (.lintFailed n)) :
    (lint m x files).result = .error (.lintFailed n) ↔
      (∀ turn ∈ m.turns x files, m.Checkable turn) ∧
        (∃ turn ∈ m.turns x files, m.rejects turn = true) ∧
        n = ((m.turns x files).flatMap m.problems).length := by
  constructor
  · intro failed
    have all := checkable_of_lintFailed genuine failed
    rw [result_of_all_checkable all] at failed
    split at failed
    · cases failed
    · rename_i some_found
      rw [length_problems_eq_zero_iff all] at some_found
      exact ⟨all, (exists_rejects_iff all).mpr some_found,
        (Failure.lintFailed.inj (Except.error.inj failed)).symm⟩
  · rintro ⟨all, rejected, rfl⟩
    exact result_of_rejects all rejected

/-- **The verdict of linting is faithful.**  Let the turns be the files of a list, each with the
state in which it is checked.

1. Linting succeeds exactly if every file is there and every run on them is clean.
2. If every file is there, no run fails and some run rejects its file, linting fails with the
   number of problems that the checks find, a file listed twice counting twice, and that is at
   least the number of runs that reject their file.
3. It fails with a number of problems in no other case: only a run that failed with the same
   words, which no program does, could look the same.
4. Otherwise it fails with the failure of the first file that cannot be checked, because the
   file is not there or because the run on it fails.  The files before it were checked, the
   validator was run on them and on it if it is there, and nothing was done after that. -/
theorem lint_verdict_faithful (m : Machine σ) (x : σ) (files : List Path) :
    let turns := m.turns x files
    let linted := lint m x files
    let found := turns.flatMap m.problems
    (linted.result = .ok () ↔
        ∀ turn ∈ turns, m.present turn = true ∧ m.verdict turn = .ok none) ∧
      ((∀ turn ∈ turns, m.Checkable turn) → (∃ turn ∈ turns, m.rejects turn = true) →
        linted.result = .error (.lintFailed found.length) ∧
          turns.countP m.rejects ≤ found.length) ∧
      (∀ n, (∀ turn ∈ turns, m.verdict turn ≠ .error (.lintFailed n)) →
        (linted.result = .error (.lintFailed n) ↔
          (∀ turn ∈ turns, m.Checkable turn) ∧ (∃ turn ∈ turns, m.rejects turn = true) ∧
            n = found.length)) ∧
      ((∃ turn ∈ turns, ¬ m.Checkable turn) →
        ∃ before p rest failure, files = before ++ p :: rest ∧
          (∀ turn ∈ m.turns x before, m.Checkable turn) ∧
          let turn := (m.after x before, p)
          (m.present turn = false ∧ failure = .io (.absent p.text) ∨
              m.present turn = true ∧ m.verdict turn = .error failure) ∧
            (checkFile m (m.after x before) p).result = .error failure ∧
            linted.result = .error failure ∧ linted.checked.map Prod.fst = before ∧
            linted.runs = before ++ (if m.present turn then [p] else []) ∧
            linted.state = (checkFile m (m.after x before) p).state) := by
  refine ⟨result_eq_ok_iff files, ?_, fun n genuine => result_eq_lintFailed_iff genuine, ?_⟩
  · intro all rejected
    exact ⟨result_of_rejects all rejected, countP_rejects_le all⟩
  · intro stops
    obtain ⟨before, p, rest, failure, split, passed, cause, result, stopped⟩ := lint_stops stops
    refine ⟨before, p, rest, failure, split, passed, cause, result, ?_, ?_, ?_, ?_⟩
    · rw [stopped]
      rfl
    · rw [stopped]
      exact map_fst_checked x before
    · rw [stopped]
    · rw [stopped]

/-- A file listed twice that a program rejects, and a list with a file that is not there. -/
theorem lint_verdict_faithful_twice :
    let files : Files := ⟨[([[97]], .file [] false), ([[98]], .file [] true)], []⟩
    let behaviour : Behaviour :=
      ⟨.code 0, .code 1, Text.encode "on line 3 of x\nbad".toList, ⟨0⟩⟩
    let m := Program.machine behaviour ⟨.ofPlace [[98]], none, []⟩
    (lint m files [.ofPlace [[97]], .ofPlace [[97]]]).result = .error (.lintFailed 2) ∧
      ∃ failure, (lint m files [.ofPlace [[97]], .ofPlace [[99]], .ofPlace [[97]]]).result =
        .error failure := by
  intro files behaviour m
  have checkable : m.Checkable (files, .ofPlace [[97]]) := ⟨by decide, some _, rfl⟩
  have rejected : m.rejects (files, .ofPlace [[97]]) = true := by decide
  constructor
  · obtain ⟨-, -, counted, -⟩ :=
      lint_verdict_faithful m files [.ofPlace [[97]], .ofPlace [[97]]]
    refine (counted 2 fun turn _ => Program.verdict_ne_lintFailed _ _ turn 2).mpr ⟨?_, ?_, ?_⟩
    · exact List.forall_mem_cons.mpr ⟨checkable, List.forall_mem_cons.mpr ⟨checkable, nofun⟩⟩
    · exact ⟨_, List.mem_cons_self, rejected⟩
    · decide
  · obtain ⟨-, -, -, stopped⟩ :=
      lint_verdict_faithful m files [.ofPlace [[97]], .ofPlace [[99]], .ofPlace [[97]]]
    have absent : ¬ m.Checkable (files, .ofPlace [[99]]) := by
      rintro ⟨present, -⟩
      exact absurd present (by decide)
    obtain ⟨_, _, _, failure, -, -, -, -, failed, -⟩ :=
      stopped ⟨_, List.mem_cons_of_mem _ List.mem_cons_self, absent⟩
    exact ⟨failure, failed⟩

end Lint

end Kickstart
