/-
# Kickstart.Proofs.Document.Cut -- what the lines of a text look like

A line is a body without breaks (`body`) and then its break (`breakOf`), which is CR LF or
one character; the last line has none.  Where a line ends with CR, the next does not begin
with LF, since the two would be one break (`Meet`).  A list of lines like that is `WellCut`.

The lines of a text are well cut (`wellCut_cut`) and make up the text (`flatten_cut`), and
well-cut lines are the lines of what they make up (`cut_flatten`).  So whatever an edit does
to the lines of a text, it is enough to write down the new lines and to see that they are
well cut: changing the body of a line keeps them so (`WellCut.set`).
-/
import Mathlib.Data.List.Basic
import Mathlib.Data.List.TakeWhile
import Mathlib.Order.Monotone.Basic
import Kickstart.Document.Edit
import Kickstart.Proofs.Document.Lines

namespace Kickstart.Lines

set_option autoImplicit false

open Text

/-! ## Bodies and breaks -/

/-- A text without breaks. -/
def Unbroken (t : Text) : Prop := ∀ c ∈ t, isBreak c = false

theorem unbroken_iff_all {t : Text} : (t.all fun c => !isBreak c) = true ↔ Unbroken t := by
  simp [Unbroken]

instance (t : Text) : Decidable (Unbroken t) := decidable_of_decidable_of_iff unbroken_iff_all

/-- A line up to its break. -/
def body (line : Text) : Text := line.takeWhile fun c => !isBreak c

/-- The break of a line. -/
def breakOf (line : Text) : Text := line.dropWhile fun c => !isBreak c

/-- What ends a line: CR LF, or one character. -/
def Closes (close : Text) : Prop := close = ['\r', '\n'] ∨ ∃ c, isBreak c = true ∧ close = [c]

theorem body_append_breakOf (line : Text) : body line ++ breakOf line = line :=
  List.takeWhile_append_dropWhile

theorem unbroken_body (line : Text) : Unbroken (body line) := by
  intro c member
  simpa using List.mem_takeWhile_imp member

theorem unbroken_append {t more : Text} : Unbroken (t ++ more) ↔ Unbroken t ∧ Unbroken more :=
  List.forall_mem_append

theorem Unbroken.breakOf_append {t : Text} (unbroken : Unbroken t) (more : Text) :
    breakOf (t ++ more) = breakOf more :=
  List.dropWhile_append_of_pos fun c member => by simp [unbroken c member]

theorem breakOf_eq_nil {line : Text} : breakOf line = [] ↔ Unbroken line := by
  simp [breakOf, Unbroken]

theorem Closes.ne_nil {close : Text} (closes : Closes close) : close ≠ [] := by
  rcases closes with rfl | ⟨c, -, rfl⟩ <;> simp

theorem Closes.breakOf_eq {close : Text} (closes : Closes close) : breakOf close = close := by
  rcases closes with rfl | ⟨c, breaks, rfl⟩
  · decide
  · simp [breakOf, breaks]

theorem getLast?_of_closes {line : Text} (closes : Closes (breakOf line)) :
    line.getLast? = (breakOf line).getLast? := by
  rw [← List.getLast?_append_of_ne_nil (body line) closes.ne_nil, body_append_breakOf]

/-- Lines with the same break have the same last character. -/
theorem getLast?_of_same {line other : Text} (closes : Closes (breakOf line))
    (same : breakOf other = breakOf line) : other.getLast? = line.getLast? := by
  rw [getLast?_of_closes (same.symm ▸ closes), same, ← getLast?_of_closes closes]

/-- What stands behind a front part of the body: the rest of it, and the break. -/
theorem drop_of_body {line front rest : Text} (shape : front ++ rest = body line) :
    line.drop front.length = rest ++ breakOf line := by
  have whole := congrArg (List.drop front.length) (body_append_breakOf line)
  rw [← shape, List.append_assoc, List.drop_left] at whole
  exact whole.symm

/-! ## Contents -/

theorem Unbroken.content_append {t : Text} (unbroken : Unbroken t) (more : Text) :
    content (t ++ more) = t ++ content more := by
  refine List.takeWhile_append_of_pos fun c member => ?_
  cases stops : isReturn c with
  | false => rfl
  | true => exact absurd (isBreak_of_isReturn stops) (by simp [unbroken c member])

theorem content_eq (line : Text) : content line = body line ++ content (breakOf line) := by
  rw [← (unbroken_body line).content_append, body_append_breakOf]

/-- The content of a line stops at its break if that is made of CR and LF. -/
theorem content_eq_body {line : Text} (returns : ∀ c ∈ breakOf line, isReturn c = true) :
    content line = body line := by
  have none : content (breakOf line) = [] := by
    cases shape : breakOf line with
    | nil => rfl
    | cons c rest => simp [content, returns c (shape ▸ List.mem_cons_self)]
  rw [content_eq, none, List.append_nil]

/-- Any other break belongs to the content. -/
theorem content_eq_self {line : Text} {c : Char} (single : breakOf line = [c])
    (ordinary : isReturn c = false) : content line = line := by
  have whole : content [c] = [c] := by simp [content, ordinary]
  rw [content_eq, single, whole, ← single, body_append_breakOf]

/-! ## Lines one behind the other -/

/-- A CR at the end of a line and an LF at the start of the next. -/
def Meet (line next : Text) : Prop := line.getLast? = some '\r' ∧ next.head? = some '\n'

/-- Lines as `cut` makes them. -/
def WellCut : List Text → Prop
  | [] => False
  | [line] => Unbroken line
  | line :: next :: rest => Closes (breakOf line) ∧ ¬ Meet line next ∧ WellCut (next :: rest)

/-- Every line but the last has a break. -/
theorem WellCut.breakOf_cases {ls : List Text} (wellCut : WellCut ls) {line : Text}
    (member : line ∈ ls) : Unbroken line ∨ Closes (breakOf line) := by
  fun_induction WellCut ls with
  | case1 => exact wellCut.elim
  | case2 only =>
      obtain rfl := List.mem_singleton.mp member
      exact .inl wellCut
  | case3 first next rest ih =>
      rcases List.mem_cons.mp member with rfl | later
      · exact .inr wellCut.1
      · exact ih wellCut.2.2 later

/-- A break is made of CR and LF, or it is one other character. -/
theorem WellCut.returns_or_single {ls : List Text} (wellCut : WellCut ls) {line : Text}
    (member : line ∈ ls) : (∀ c ∈ breakOf line, isReturn c = true) ∨
      ∃ c, isReturn c = false ∧ breakOf line = [c] := by
  rcases wellCut.breakOf_cases member with unbroken | pair | ⟨c, -, single⟩
  · exact .inl (by simp [breakOf_eq_nil.mpr unbroken])
  · exact .inl (by simp [pair, isReturn])
  · cases stops : isReturn c with
    | true => exact .inl (by simp [single, stops])
    | false => exact .inr ⟨c, stops, single⟩

/-- Behind the content of a line there is nothing but CR and LF. -/
theorem WellCut.eq_content_append {ls : List Text} (wellCut : WellCut ls) {line : Text}
    (member : line ∈ ls) :
    ∃ tail, line = content line ++ tail ∧ ∀ c ∈ tail, isReturn c = true := by
  rcases wellCut.returns_or_single member with returns | ⟨c, ordinary, single⟩
  · refine ⟨breakOf line, ?_, returns⟩
    rw [content_eq_body returns, body_append_breakOf]
  · refine ⟨[], ?_, nofun⟩
    rw [content_eq_self single ordinary, List.append_nil]

/-- What well-cut lines make up begins as their first line does. -/
theorem WellCut.head?_flatten {line : Text} {rest : List Text} (wellCut : WellCut (line :: rest)) :
    (line :: rest).flatten.head? = line.head? := by
  cases rest with
  | nil => simp
  | cons next rest =>
      have visible : line ≠ [] := by
        rintro rfl
        exact wellCut.1.ne_nil rfl
      rw [List.flatten_cons, List.head?_append_of_ne_nil line visible]

/-! ## Changing lines -/

/-- Lines stay well cut when one of them gets another body, as long as it does not become an
LF behind a CR. -/
theorem WellCut.set {ls : List Text} (wellCut : WellCut ls) {l : Nat} {line new : Text}
    (there : ls[l]? = some line) (same : breakOf new = breakOf line)
    (apart : ∀ k previous, k + 1 = l → ls[k]? = some previous → ¬ Meet previous new) :
    WellCut (ls.set l new) := by
  induction ls generalizing l with
  | nil => exact wellCut.elim
  | cons first rest ih =>
      cases l with
      | zero =>
          obtain rfl := Option.some.inj there
          cases rest with
          | nil => exact breakOf_eq_nil.mp (same.trans (breakOf_eq_nil.mpr wellCut))
          | cons next rest =>
              obtain ⟨closes, apart_next, tail⟩ := wellCut
              refine ⟨same.symm ▸ closes, ?_, tail⟩
              rintro ⟨return_last, following⟩
              rw [getLast?_of_same closes same] at return_last
              exact apart_next ⟨return_last, following⟩
      | succ l =>
          cases rest with
          | nil => simp at there
          | cons next rest =>
              obtain ⟨closes, apart_next, tail⟩ := wellCut
              have later : WellCut ((next :: rest).set l new) := by
                refine ih tail there fun k previous before found => ?_
                exact apart (k + 1) previous (congrArg Nat.succ before) found
              cases l with
              | zero => exact ⟨closes, apart 0 first rfl rfl, later⟩
              | succ l => exact ⟨closes, apart_next, later⟩

/-- A CR and the LF of the next line become one break when nothing stands between them. -/
theorem WellCut.join {before after : List Text} {previous line : Text}
    (wellCut : WellCut (before ++ previous :: line :: after))
    (return_last : previous.getLast? = some '\r') (feed : breakOf line = ['\n']) :
    WellCut (before ++ (previous ++ ['\n']) :: after) := by
  induction before with
  | nil =>
      cases after with
      | nil => exact absurd (feed.symm.trans (breakOf_eq_nil.mpr wellCut.2.2)) (by decide)
      | cons next after =>
          obtain ⟨closes, -, -, -, tail⟩ := wellCut
          rw [getLast?_of_closes closes] at return_last
          have return_alone : breakOf previous = ['\r'] := by
            rcases closes with pair | ⟨c, -, single⟩
            · rw [pair] at return_last
              exact absurd return_last (by decide)
            · rw [single, List.getLast?_singleton] at return_last
              rw [single, Option.some.inj return_last]
          have pair : breakOf (previous ++ ['\n']) = ['\r', '\n'] := by
            rw [← body_append_breakOf previous, return_alone, List.append_assoc,
              (unbroken_body previous).breakOf_append]
            decide
          refine ⟨pair ▸ .inl rfl, ?_, tail⟩
          rintro ⟨other_last, -⟩
          rw [List.getLast?_concat] at other_last
          exact absurd other_last (by decide)
  | cons first before ih =>
      cases before with
      | nil =>
          obtain ⟨closes, apart, tail⟩ := wellCut
          refine ⟨closes, ?_, ih tail⟩
          rintro ⟨first_return, following⟩
          have visible : previous ≠ [] := by
            rintro rfl
            exact absurd return_last (by decide)
          rw [List.head?_append_of_ne_nil previous visible] at following
          exact apart ⟨first_return, following⟩
      | cons second before =>
          obtain ⟨closes, apart, tail⟩ := wellCut
          exact ⟨closes, apart, ih tail⟩

/-! ## Cutting and putting together -/

theorem flatten_cut (t : Text) : (cut t).flatten = t := by
  induction t with
  | nil => rfl
  | cons c rest ih =>
      cases ends : endsLine isBreak c rest with
      | true => rw [cut_cons_of_ends ends, List.flatten_cons, ih, List.singleton_append]
      | false =>
          obtain ⟨line, lines, tail⟩ := exists_cut rest
          rw [tail, List.flatten_cons] at ih
          rw [cut_cons_of_inside ends tail, List.flatten_cons, List.cons_append, ih]

/-- A character that is no break goes in front of the first line. -/
theorem WellCut.cons_ordinary {line : Text} {lines : List Text} (wellCut : WellCut (line :: lines))
    {c : Char} (ordinary : isBreak c = false) : WellCut ((c :: line) :: lines) := by
  have alone : Unbroken [c] := by simpa [Unbroken] using ordinary
  have first : (line :: lines)[0]? = some line := rfl
  exact wellCut.set first (alone.breakOf_append line) fun k _ before => nomatch before

/-- A CR goes in front of a line that is an LF alone. -/
theorem WellCut.cons_return {lines : List Text} (wellCut : WellCut (['\n'] :: lines)) :
    WellCut (['\r', '\n'] :: lines) := by
  cases lines with
  | nil => exact absurd (wellCut '\n' List.mem_cons_self) (by decide)
  | cons next rest =>
      have closes : Closes ['\r', '\n'] := .inl rfl
      refine ⟨closes.breakOf_eq.symm ▸ closes, ?_, wellCut.2.2⟩
      rintro ⟨return_last, -⟩
      exact absurd return_last (by decide)

theorem wellCut_cut (t : Text) : WellCut (cut t) := by
  induction t with
  | nil => exact fun _ => nofun
  | cons c rest ih =>
      obtain ⟨line, lines, tail⟩ := exists_cut rest
      have whole := flatten_cut rest
      rw [tail] at ih whole
      cases ends : endsLine isBreak c rest with
      | true =>
          rw [cut_cons_of_ends ends, tail]
          simp only [endsLine, Bool.and_eq_true, Bool.not_eq_true', Bool.and_eq_false_iff,
            decide_eq_false_iff_not] at ends
          obtain ⟨breaks, single⟩ := ends
          have closes : Closes [c] := .inr ⟨c, breaks, rfl⟩
          refine ⟨closes.breakOf_eq.symm ▸ closes, ?_, ih⟩
          rintro ⟨return_last, following⟩
          rw [← whole, ih.head?_flatten] at single
          exact single.elim (absurd (Option.some.inj return_last)) (absurd following)
      | false =>
          rw [cut_cons_of_inside ends tail]
          cases breaks : isBreak c with
          | false => exact ih.cons_ordinary breaks
          | true =>
              -- The only break that stays on its line is the CR of a CR LF.
              simp only [endsLine, breaks, Bool.true_and, Bool.not_eq_false', Bool.and_eq_true,
                decide_eq_true_eq] at ends
              obtain ⟨rfl, following⟩ := ends
              obtain ⟨after, rfl⟩ := List.head?_eq_some_iff.mp following
              rw [cut_cons_of_ends (by simp [endsLine, isBreak])] at tail
              obtain ⟨rfl, rfl⟩ := List.cons.inj tail
              exact ih.cons_return

theorem Unbroken.cut_append {t : Text} (unbroken : Unbroken t) {rest line : Text}
    {lines : List Text} (tail : cut rest = line :: lines) :
    cut (t ++ rest) = (t ++ line) :: lines := by
  induction t with
  | nil => exact tail
  | cons c t ih =>
      have ordinary : isBreak c = false := unbroken c List.mem_cons_self
      refine cut_cons_of_inside (by simp [endsLine, ordinary]) (ih ?_)
      exact fun d member => unbroken d (List.mem_cons_of_mem c member)

/-- A break that does not meet an LF ends the first line. -/
theorem Closes.cut_append {close : Text} (closes : Closes close) {rest : Text}
    (apart : ¬ Meet close rest) : cut (close ++ rest) = close :: cut rest := by
  rcases closes with rfl | ⟨c, breaks, rfl⟩
  · simp only [List.cons_append, List.nil_append]
    rw [cut]
  · refine cut_cons_of_ends ?_
    have single : ¬ (c = '\r' ∧ rest.head? = some '\n') := by
      rintro ⟨rfl, following⟩
      exact apart ⟨rfl, following⟩
    simp only [endsLine, breaks, Bool.true_and, Bool.not_eq_true', Bool.and_eq_false_iff,
      decide_eq_false_iff_not]
    exact not_and_or.mp single

/-- **Well-cut lines are the lines of what they make up.** -/
theorem cut_flatten {ls : List Text} (wellCut : WellCut ls) : cut ls.flatten = ls := by
  fun_induction WellCut ls with
  | case1 => exact wellCut.elim
  | case2 line => simpa using wellCut.cut_append (show cut [] = [[]] from rfl)
  | case3 line next rest ih =>
      obtain ⟨closes, apart, later⟩ := wellCut
      have apart_text : ¬ Meet (breakOf line) (next :: rest).flatten := by
        rintro ⟨return_last, following⟩
        rw [← getLast?_of_closes closes] at return_last
        rw [later.head?_flatten] at following
        exact apart ⟨return_last, following⟩
      have behind := closes.cut_append apart_text
      rw [ih later] at behind
      have whole := (unbroken_body line).cut_append behind
      rwa [← List.append_assoc, body_append_breakOf] at whole

/-! ## Where lines start -/

theorem startOf_succ {t line : Text} {l : Nat} (there : (cut t)[l]? = some line) :
    startOf t (l + 1) = startOf t l + line.length := by
  simp [startOf, List.take_add_one, there]

theorem startOf_mono (t : Text) : Monotone (startOf t) := by
  refine monotone_nat_of_le_succ fun l => ?_
  cases there : (cut t)[l]? with
  | none =>
      have past : (cut t).length ≤ l := List.getElem?_eq_none_iff.mp there
      simp [startOf, List.take_of_length_le past, List.take_of_length_le (Nat.le_succ_of_le past)]
  | some line =>
      rw [startOf_succ there]
      exact Nat.le_add_right _ _

/-- A text is what stands before a line, the line, and what stands behind it. -/
theorem eq_append_of_line {t line : Text} {l : Nat} (there : (cut t)[l]? = some line) :
    t = ((cut t).take l).flatten ++ (line ++ ((cut t).drop (l + 1)).flatten) := by
  obtain ⟨inside, found⟩ := List.getElem?_eq_some_iff.mp there
  rw [← List.flatten_cons, ← found, ← List.drop_eq_getElem_cons inside, ← List.flatten_append,
    List.take_append_drop, flatten_cut]

theorem startOf_le (t : Text) (l : Nat) : startOf t l ≤ t.length := by
  have split : t = ((cut t).take l).flatten ++ ((cut t).drop l).flatten := by
    rw [← List.flatten_append, List.take_append_drop, flatten_cut]
  have lengths := congrArg List.length split
  rw [List.length_append] at lengths
  exact lengths ▸ Nat.le_add_right _ _

theorem splice_append (before after : Text) {line : Text} {start stop : Nat}
    (start_le : start ≤ line.length) (stop_le : stop ≤ line.length) (text : Text) :
    Text.splice (before ++ (line ++ after)) (before.length + start) (before.length + stop) text =
      before ++ (line.take start ++ text ++ line.drop stop ++ after) := by
  rw [Text.splice, List.take_length_add_append, List.drop_length_add_append,
    List.take_append_of_le_length start_le, List.drop_append_of_le_length stop_le]
  simp only [List.append_assoc]

/-- Replacing a part of a line replaces the line. -/
theorem splice_in_line {t line : Text} {l start stop : Nat} (there : (cut t)[l]? = some line)
    (start_le : start ≤ line.length) (stop_le : stop ≤ line.length) (text : Text) :
    t.splice (startOf t l + start) (startOf t l + stop) text =
      ((cut t).set l (line.take start ++ text ++ line.drop stop)).flatten := by
  obtain ⟨inside, -⟩ := List.getElem?_eq_some_iff.mp there
  have replaced := splice_append ((cut t).take l).flatten ((cut t).drop (l + 1)).flatten
    start_le stop_le text
  rw [← eq_append_of_line there] at replaced
  rw [List.set_eq_take_append_cons_drop, if_pos inside, List.flatten_append, List.flatten_cons]
  exact replaced

end Kickstart.Lines
