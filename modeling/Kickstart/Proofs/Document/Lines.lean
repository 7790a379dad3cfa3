/-
# Kickstart.Proofs.Document.Lines -- lines and indices, one character at a time

`Lines.cut` has a case of its own for CR LF.  Here that case goes away: whether the
first character of a text ends its line depends on that character and the one after
it alone (`endsLine`), and a CR that LF follows does not.  With this, cutting either
closes a line after one character or puts the character in front of the first line
of the rest (`cut_cons_of_ends`, `cut_cons_of_inside`).

The same two cases resolve positions: `indexOf` on `c :: rest` is given by `indexOf`
on `rest` (`indexOf_cons_*`), and every later statement about positions is an
induction over the text that uses nothing else.
-/
import Kickstart.Document.Lines

namespace Kickstart

set_option autoImplicit false

namespace Text

theorem unitsOf_pos (c : Char) : 0 < unitsOf c := by
  unfold unitsOf
  split <;> decide

@[simp] theorem units_nil : units [] = 0 := rfl

@[simp] theorem units_cons (c : Char) (t : Text) : units (c :: t) = unitsOf c + units t := rfl

theorem length_le_units (t : Text) : t.length ≤ t.units := by
  induction t with
  | nil => exact Nat.le_refl 0
  | cons c rest ih =>
      have := unitsOf_pos c
      simp only [List.length_cons, units_cons]
      omega

theorem units_drop_take_le (t : Text) (i j : Nat) : units ((t.take i).drop j) ≤ units t := by
  induction t generalizing i j with
  | nil => simp
  | cons c rest ih =>
      cases i with
      | zero => simp
      | succ i =>
          cases j with
          | zero =>
              have := ih i 0
              simp only [List.drop_zero] at this
              simp only [List.take_succ_cons, List.drop_zero, units_cons]
              omega
          | succ j =>
              have := ih i j
              simp only [List.take_succ_cons, List.drop_succ_cons, units_cons]
              omega

end Text

namespace Lines

open Text

/-! ## Line ends -/

/-- A character ends its line when `rest` follows it: it is a line end, and not the CR
of a CR LF. -/
def endsLine (isEnd : Char → Bool) (c : Char) (rest : Text) : Bool :=
  isEnd c && !(c = '\r' && rest.head? = some '\n')

theorem isBreak_of_isReturn {c : Char} (isEnd : isReturn c = true) : isBreak c = true := by
  simp only [isReturn, Bool.or_eq_true, decide_eq_true_eq] at isEnd
  rcases isEnd with rfl | rfl <;> decide

/-- Among the characters that stop a column, only the CR of a CR LF does not end its line. -/
theorem pair_of_isReturn {isEnd : Char → Bool} {c : Char} {rest : Text}
    (known : isReturn c = true → isEnd c = true) (stops : isReturn c = true)
    (inside : endsLine isEnd c rest = false) : c = '\r' ∧ rest.head? = some '\n' := by
  simpa [endsLine, known stops] using inside

/-! ## Cutting -/

theorem exists_cut (t : Text) : ∃ line lines, cut t = line :: lines := by
  unfold cut
  split
  · exact ⟨_, _, rfl⟩
  · exact ⟨_, _, rfl⟩
  · split
    · exact ⟨_, _, rfl⟩
    · split <;> exact ⟨_, _, rfl⟩

theorem cut_cons_of_ends {c : Char} {rest : Text} (ends : endsLine isBreak c rest = true) :
    cut (c :: rest) = [c] :: cut rest := by
  simp only [endsLine, Bool.and_eq_true, Bool.not_eq_true', Bool.and_eq_false_iff,
    decide_eq_false_iff_not] at ends
  obtain ⟨isEnd, single⟩ := ends
  cases rest with
  | nil => simp [cut, isEnd]
  | cons d rest =>
      have unpaired : ∀ after, c = '\r' → d :: rest = '\n' :: after → False := by
        rintro after rfl same
        simp_all
      rw [cut]
      · simp [isEnd]
      · exact unpaired

theorem cut_cons_of_inside {c : Char} {rest line : Text} {lines : List Text}
    (inside : endsLine isBreak c rest = false) (tail : cut rest = line :: lines) :
    cut (c :: rest) = (c :: line) :: lines := by
  by_cases pair : c = '\r' ∧ rest.head? = some '\n'
  · obtain ⟨rfl, following⟩ := pair
    obtain ⟨after, rfl⟩ := List.head?_eq_some_iff.mp following
    rw [cut_cons_of_ends (by simp [endsLine, isBreak])] at tail
    obtain ⟨rfl, rfl⟩ := List.cons.inj tail
    rw [cut]
  · have ordinary : isBreak c = false := by
      simp only [endsLine, Bool.and_eq_false_iff, Bool.not_eq_false', Bool.and_eq_true,
        decide_eq_true_eq] at inside
      exact inside.resolve_right pair
    rw [cut]
    · simp [ordinary, tail]
    · rintro after rfl rfl
      exact pair ⟨rfl, rfl⟩

/-! ## Resolving positions -/

theorem startOf_of_cut {t head : Text} {lines : List Text} (shape : cut t = head :: lines)
    (line : Nat) : startOf t (line + 1) = head.length + (lines.take line).flatten.length := by
  simp [startOf, shape]

/-- On the first line of a text there is only the column to resolve. -/
theorem indexOf_first {t line : Text} {lines : List Text} (shape : cut t = line :: lines)
    (column : Nat) : indexOf t ⟨0, column⟩ = (covered line column).length := by
  simp [indexOf, shape, startOf]

theorem covered_nil (column : Nat) : covered [] column = [] := rfl

theorem covered_cons (c : Char) (line : Text) (column : Nat) :
    covered (c :: line) column =
      if isReturn c = true ∨ column < unitsOf c then []
      else c :: covered line (column - unitsOf c) := by
  unfold covered content
  cases stops : isReturn c with
  | true => simp [stops, takeUnits]
  | false =>
      simp only [List.takeWhile_cons, stops, Bool.not_false, if_true, takeUnits,
        Bool.false_eq_true, false_or]
      by_cases short : column < unitsOf c
      · rw [if_pos short, if_neg (by omega)]
      · rw [if_neg short, if_pos (by omega)]

theorem covered_zero (line : Text) : covered line 0 = [] := by
  cases line with
  | nil => rfl
  | cons c rest =>
      rw [covered_cons, if_pos (Or.inr (unitsOf_pos c))]

@[simp] theorem indexOf_origin (t : Text) : indexOf t ⟨0, 0⟩ = 0 := by
  obtain ⟨line, lines, shape⟩ := exists_cut t
  rw [indexOf_first shape, covered_zero, List.length_nil]

/-- Past a character that ends its line, lines count from the rest. -/
theorem indexOf_cons_of_ends {c : Char} {rest : Text} (ends : endsLine isBreak c rest = true)
    (line column : Nat) :
    indexOf (c :: rest) ⟨line + 1, column⟩ = indexOf rest ⟨line, column⟩ + 1 := by
  have shape := cut_cons_of_ends ends
  simp only [indexOf, shape, List.getElem?_cons_succ, List.length_cons]
  cases (cut rest)[line]? with
  | none => rfl
  | some found =>
      have moved : startOf (c :: rest) (line + 1) = 1 + startOf rest line := startOf_of_cut shape line
      simp only [moved]
      omega

/-- On the line that one character makes up, a column covers that character or nothing. -/
theorem indexOf_cons_of_ends_first {c : Char} {rest : Text}
    (ends : endsLine isBreak c rest = true) (column : Nat) :
    indexOf (c :: rest) ⟨0, column⟩ = if isReturn c = true ∨ column < unitsOf c then 0 else 1 := by
  rw [indexOf_first (cut_cons_of_ends ends), covered_cons]
  split <;> simp [covered_nil]

/-- A character that stays on its line shifts all later lines by one. -/
theorem indexOf_cons_of_inside {c : Char} {rest : Text}
    (inside : endsLine isBreak c rest = false) (line column : Nat) :
    indexOf (c :: rest) ⟨line + 1, column⟩ = indexOf rest ⟨line + 1, column⟩ + 1 := by
  obtain ⟨head, lines, tail⟩ := exists_cut rest
  have shape := cut_cons_of_inside inside tail
  simp only [indexOf, shape, tail, List.getElem?_cons_succ, List.length_cons]
  cases lines[line]? with
  | none => rfl
  | some found =>
      simp only [startOf_of_cut shape, startOf_of_cut tail, List.length_cons]
      omega

/-- On the first line, a column that covers the first character goes on into the rest. -/
theorem indexOf_cons_of_inside_first {c : Char} {rest : Text}
    (inside : endsLine isBreak c rest = false) (column : Nat) :
    indexOf (c :: rest) ⟨0, column⟩ =
      if isReturn c = true ∨ column < unitsOf c then 0
      else indexOf rest ⟨0, column - unitsOf c⟩ + 1 := by
  obtain ⟨head, lines, tail⟩ := exists_cut rest
  rw [indexOf_first (cut_cons_of_inside inside tail), indexOf_first tail, covered_cons]
  split <;> simp

end Lines

end Kickstart
