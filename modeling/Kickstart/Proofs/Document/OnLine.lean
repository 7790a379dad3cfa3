/-
# Kickstart.Proofs.Document.OnLine -- positions that stay on their line

A position resolves to an index between the start of its line and the break of that line,
so the index has the line number that the position names (`line_positionAt`), and text
without breaks that is put in there changes that line and no other (`cut_insert`).  A range
over the whole of a line replaces its body and leaves its break (`apply_wholeLine`).

Two things can come in between.  A column passes over every break but CR and LF, so it has
to stop in front of one (`StopsBefore`).  And taking away the body of a line leaves its break
alone: an LF then joins the CR that the line before may end with, and there is one line less
(`length_cut_joined`).  `position_leaves_line` shows both, and that the greatest column is not
behind the end of every line.
-/
import Kickstart.Proofs.Document.Bounds
import Kickstart.Proofs.Document.Position

namespace Kickstart

set_option autoImplicit false

namespace Text

theorem units_takeUnits_le (n : Nat) (t : Text) : units (takeUnits n t) ≤ n := by
  induction t generalizing n with
  | nil => exact Nat.zero_le n
  | cons c rest ih =>
      rw [takeUnits]
      split
      · have := ih (n - unitsOf c)
        rw [units_cons]
        omega
      · exact Nat.zero_le n

end Text

namespace Lines

open Text

/-! ## Columns that stop in front of the break -/

/-- The column does not pass over the break of the line: the break is made of CR and LF, or
there is none, or the column is not behind it. -/
def StopsBefore (line : Text) (column : Nat) : Prop :=
  (∀ c ∈ breakOf line, isReturn c = true) ∨ column < line.units

theorem stopsBefore_iff_all {line : Text} {column : Nat} :
    ((breakOf line).all isReturn = true ∨ column < line.units) ↔ StopsBefore line column := by
  rw [StopsBefore, List.all_eq_true]

instance (line : Text) (column : Nat) : Decidable (StopsBefore line column) :=
  decidable_of_decidable_of_iff stopsBefore_iff_all

theorem length_covered_le_body {t line : Text} (member : line ∈ cut t) {column : Nat}
    (stops : StopsBefore line column) : (covered line column).length ≤ (body line).length := by
  have plain (returns : ∀ c ∈ breakOf line, isReturn c = true) :
      (covered line column).length ≤ (body line).length := by
    rw [covered, content_eq_body returns]
    exact (takeUnits_isPrefix column _).length_le
  rcases stops with returns | narrow
  · exact plain returns
  · rcases (wellCut_cut t).returns_or_single member with returns | ⟨c, -, single⟩
    · exact plain returns
    · -- one character is missing at least, and the break is no more than that
      have front := covered_isPrefix line column
      have width : units (covered line column) ≤ column := units_takeUnits_le column _
      have proper : (covered line column).length ≠ line.length := by
        intro whole
        rw [front.eq_of_length whole] at width
        omega
      have lengths := congrArg List.length (body_append_breakOf line)
      rw [single, List.length_append, List.length_singleton] at lengths
      have := front.length_le
      omega

/-- A column that reaches the break and stops there covers the body. -/
theorem covered_eq_body {t line : Text} (member : line ∈ cut t) {column : Nat}
    (stops : StopsBefore line column) (wide : (body line).units ≤ column) :
    covered line column = body line := by
  have reached : (body line).length ≤ (covered line column).length := by
    have least := length_takeUnits_mono wide (content line)
    rwa [content_eq, takeUnits_append (Nat.le_refl _), takeUnits_of_units_le (Nat.le_refl _),
      ← content_eq] at least
  have same : (covered line column).length = (body line).length :=
    Nat.le_antisymm (length_covered_le_body member stops) reached
  have front : body line <+: line := List.takeWhile_prefix _
  rw [List.prefix_iff_eq_take.mp (covered_isPrefix line column), same,
    ← List.prefix_iff_eq_take.mp front]

/-! ## The line number of an index -/

/-- Up to the first break the line number is zero. -/
theorem line_positionAt_first {t line : Text} {lines : List Text} (shape : cut t = line :: lines)
    {i : Nat} (high : i ≤ (body line).length) : (positionAt isBreak t i).line = 0 := by
  induction t generalizing i line lines with
  | nil => rw [positionAt_nil]
  | cons c rest ih =>
      cases i with
      | zero => rw [positionAt_zero]
      | succ i =>
          cases closes : endsLine isBreak c rest with
          | true =>
              have breaks : isBreak c = true := (Bool.and_eq_true_iff.mp closes).1
              rw [cut_cons_of_ends closes] at shape
              obtain ⟨rfl, -⟩ := List.cons.inj shape
              simp [body, breaks] at high
          | false =>
              obtain ⟨head, lines, tail⟩ := exists_cut rest
              rw [cut_cons_of_inside closes tail] at shape
              obtain ⟨rfl, -⟩ := List.cons.inj shape
              have ordinary : isBreak c = false := by
                cases breaks : isBreak c with
                | false => rfl
                | true => simp [body, breaks] at high
              have longer : (body (c :: head)).length = (body head).length + 1 := by
                simp [body, ordinary]
              have first := ih tail (i := i) (by omega)
              rw [positionAt_cons_of_inside closes, if_pos first]

/-- **An index between the start of a line and its break has the number of that line.** -/
theorem line_positionAt {t line : Text} {l i : Nat} (there : (cut t)[l]? = some line)
    (low : startOf t l ≤ i) (high : i ≤ startOf t l + (body line).length) :
    (positionAt isBreak t i).line = l := by
  induction t generalizing l i with
  | nil =>
      obtain rfl : l = 0 := Nat.lt_one_iff.mp (List.getElem?_eq_some_iff.mp there).1
      rw [positionAt_nil]
  | cons c rest ih =>
      cases l with
      | zero =>
          obtain ⟨lines, shape⟩ := List.head?_eq_some_iff.mp (List.head?_eq_getElem? ▸ there)
          have start : startOf (c :: rest) 0 = 0 := rfl
          exact line_positionAt_first shape (by omega)
      | succ l =>
          cases closes : endsLine isBreak c rest with
          | true =>
              have shape := cut_cons_of_ends closes
              have moved : startOf (c :: rest) (l + 1) = 1 + startOf rest l :=
                startOf_of_cut shape l
              obtain ⟨i, rfl⟩ : ∃ k, i = k + 1 := ⟨i - 1, by omega⟩
              rw [shape] at there
              rw [positionAt_cons_of_ends closes, ih there (by omega) (by omega)]
          | false =>
              obtain ⟨head, lines, tail⟩ := exists_cut rest
              have shape := cut_cons_of_inside closes tail
              have moved : startOf (c :: rest) (l + 1) = startOf rest (l + 1) + 1 := by
                rw [startOf_of_cut shape, startOf_of_cut tail, List.length_cons]
                omega
              obtain ⟨i, rfl⟩ : ∃ k, i = k + 1 := ⟨i - 1, by omega⟩
              have there_rest : (cut rest)[l + 1]? = some line := by
                rw [shape] at there
                rw [tail]
                exact there
              have later := ih there_rest (i := i) (by omega) (by omega)
              rw [positionAt_cons_of_inside closes, if_neg (by omega), later]

/-! ## Lines after an edit -/

theorem WellCut.not_meet {ls : List Text} (wellCut : WellCut ls) {k : Nat} {line next : Text}
    (here : ls[k]? = some line) (behind : ls[k + 1]? = some next) : ¬ Meet line next := by
  induction ls generalizing k with
  | nil => exact wellCut.elim
  | cons first rest ih =>
      cases rest with
      | nil => simp at behind
      | cons second rest =>
          obtain ⟨-, apart, tail⟩ := wellCut
          cases k with
          | zero =>
              obtain rfl := Option.some.inj here
              obtain rfl := Option.some.inj behind
              exact apart
          | succ k => exact ih tail here behind

theorem breakOf_breakOf (line : Text) : breakOf (breakOf line) = breakOf line := by
  have whole := (unbroken_body line).breakOf_append (breakOf line)
  rw [body_append_breakOf] at whole
  exact whole.symm

/-- The lines of a text in which one line has got another body, as long as no LF is left
behind a CR. -/
theorem cut_set {t line other : Text} {l : Nat} (there : (cut t)[l]? = some line)
    (unbroken : Unbroken other)
    (apart : other = [] → ∀ k previous, k + 1 = l → (cut t)[k]? = some previous →
      ¬ Meet previous (breakOf line)) :
    cut ((cut t).set l (other ++ breakOf line)).flatten =
      (cut t).set l (other ++ breakOf line) := by
  refine cut_flatten ((wellCut_cut t).set there ?_ fun k previous before found => ?_)
  · rw [unbroken.breakOf_append, breakOf_breakOf]
  · cases other with
    | nil => exact apart rfl k previous before found
    | cons c rest =>
        rintro ⟨-, feed⟩
        rw [List.cons_append, List.head?_cons] at feed
        have ordinary := unbroken c List.mem_cons_self
        rw [Option.some.inj feed] at ordinary
        exact absurd ordinary (by decide)

/-- **Text without breaks that is put in on a line changes that line only.** -/
theorem cut_insert {t line : Text} {l column : Nat} (there : (cut t)[l]? = some line)
    (stops : StopsBefore line column) {text : Text} (unbroken : Unbroken text) :
    cut (Edit.apply t ⟨some ⟨⟨l, column⟩, ⟨l, column⟩⟩, text⟩) =
      (cut t).set l (covered line column ++ text ++ line.drop (covered line column).length) := by
  have front := covered_isPrefix line column
  have body_le := length_covered_le_body (List.mem_of_getElem? there) stops
  -- the new line is a new body and the old break
  obtain ⟨rest, body_eq⟩ : covered line column <+: body line :=
    List.prefix_of_prefix_length_le front (List.takeWhile_prefix _) body_le
  have new_line : covered line column ++ text ++ line.drop (covered line column).length =
      covered line column ++ text ++ rest ++ breakOf line := by
    rw [drop_of_body body_eq, List.append_assoc _ rest]
  have edited : Edit.apply t ⟨some ⟨⟨l, column⟩, ⟨l, column⟩⟩, text⟩ =
      ((cut t).set l (covered line column ++ text ++ rest ++ breakOf line)).flatten := by
    have index : indexOf t ⟨l, column⟩ = startOf t l + (covered line column).length :=
      indexOf_of_line there
    rw [Edit.apply]
    simp only [index, Nat.max_self]
    rw [splice_in_line there front.length_le front.length_le, ← List.prefix_iff_eq_take.mp front,
      new_line]
  have unbroken_line := unbroken_body line
  rw [← body_eq, unbroken_append] at unbroken_line
  rw [edited, new_line]
  refine cut_set there ?_ fun nothing k previous before found => ?_
  · simp only [unbroken_append]
    exact ⟨⟨unbroken_line.1, unbroken⟩, unbroken_line.2⟩
  · -- nothing was put in on a line without a body, so it is as it was
    simp only [List.append_eq_nil_iff] at nothing
    have same : breakOf line = line := by
      have whole := body_append_breakOf line
      rwa [← body_eq, nothing.1.1, nothing.2] at whole
    rw [same]
    exact (wellCut_cut t).not_meet found (before ▸ there)

/-! ## Whole lines -/

/-- **A range over the whole of a line replaces its body and leaves its break.** -/
theorem apply_wholeLine {t line : Text} {l : Nat} (there : (cut t)[l]? = some line)
    (stops : StopsBefore line Position.lastColumn)
    (wide : (body line).units ≤ Position.lastColumn) (text : Text) :
    Edit.apply t ⟨some (.wholeLine l), text⟩ = ((cut t).set l (text ++ breakOf line)).flatten := by
  have start : indexOf t ⟨l, 0⟩ = startOf t l + 0 := by
    rw [indexOf_of_line there, covered_zero, List.length_nil]
  have stop : indexOf t ⟨l, Position.lastColumn⟩ = startOf t l + (body line).length := by
    rw [indexOf_of_line there, covered_eq_body (List.mem_of_getElem? there) stops wide]
  have greater : max (startOf t l + 0) (startOf t l + (body line).length) =
      startOf t l + (body line).length := Nat.max_eq_right (Nat.add_le_add_left (Nat.zero_le _) _)
  have front : body line <+: line := List.takeWhile_prefix _
  have behind : line.drop (body line).length = breakOf line := drop_of_body (List.append_nil _)
  rw [Edit.apply]
  simp only [Range.wholeLine, start, stop, greater]
  rw [splice_in_line there (Nat.zero_le _) front.length_le, behind, List.take_zero, List.nil_append]

/-- What is left of a line without its body is an LF behind a CR. -/
def LeavesPair (t : Text) (l : Nat) (line : Text) : Prop :=
  breakOf line = ['\n'] ∧
    ∃ k previous, k + 1 = l ∧ (cut t)[k]? = some previous ∧ previous.getLast? = some '\r'

/-- A line can lose its body and stay a line, unless its break is an LF behind a CR. -/
theorem not_meet_breakOf {t line : Text} {l : Nat} (there : (cut t)[l]? = some line)
    (apart : ¬ LeavesPair t l line) (k : Nat) (previous : Text) (before : k + 1 = l)
    (found : (cut t)[k]? = some previous) : ¬ Meet previous (breakOf line) := by
  rintro ⟨return_last, feed⟩
  refine apart ⟨?_, k, previous, before, found, return_last⟩
  have member := List.mem_of_getElem? there
  rcases (wellCut_cut t).breakOf_cases member with unbroken | pair | ⟨c, -, single⟩
  · rw [breakOf_eq_nil.mpr unbroken] at feed
    cases feed
  · rw [pair] at feed
    exact absurd feed (by decide)
  · rw [single, List.head?_cons] at feed
    rw [single, Option.some.inj feed]

/-- An LF that is left behind a CR makes one break with it, and two lines become one. -/
theorem length_cut_joined {t line : Text} {l : Nat} (there : (cut t)[l]? = some line)
    (joins : LeavesPair t l line) :
    (cut ((cut t).set l (breakOf line)).flatten).length + 1 = (cut t).length := by
  obtain ⟨feed, k, previous, rfl, found, return_last⟩ := joins
  obtain ⟨inside, at_line⟩ := List.getElem?_eq_some_iff.mp there
  obtain ⟨inside_k, at_previous⟩ := List.getElem?_eq_some_iff.mp found
  have shape : cut t = (cut t).take k ++ previous :: line :: (cut t).drop (k + 1 + 1) := by
    rw [← at_line, ← List.drop_eq_getElem_cons inside, ← at_previous,
      ← List.drop_eq_getElem_cons inside_k, List.take_append_drop]
  have joined : WellCut ((cut t).take k ++ (previous ++ ['\n']) :: (cut t).drop (k + 1 + 1)) := by
    have wellCut := wellCut_cut t
    rw [shape] at wellCut
    exact wellCut.join return_last feed
  have edited : ((cut t).set (k + 1) ['\n']).flatten =
      ((cut t).take k ++ (previous ++ ['\n']) :: (cut t).drop (k + 1 + 1)).flatten := by
    have before : (cut t).take (k + 1) = (cut t).take k ++ [previous] := by
      rw [List.take_add_one, found]
      rfl
    rw [List.set_eq_take_append_cons_drop, if_pos inside, before]
    simp
  rw [feed, edited, cut_flatten joined, List.length_append, List.length_cons, List.length_drop,
    List.length_take_of_le (Nat.le_of_lt inside_k)]
  omega

theorem cut_of_unbroken {t : Text} (unbroken : Unbroken t) : cut t = [t] := by
  have only : WellCut [t] := unbroken
  simpa using cut_flatten only

/-- The greatest column is not behind the end of a text that is longer. -/
theorem apply_wholeLine_ne_nil {t : Text} (long : Position.lastColumn < t.length) :
    Edit.apply t ⟨some (.wholeLine 0), []⟩ ≠ [] := by
  obtain ⟨line, lines, shape⟩ := exists_cut t
  have stop : indexOf t ⟨0, Position.lastColumn⟩ ≤ Position.lastColumn := by
    rw [indexOf_first shape]
    exact Nat.le_trans (length_le_units _) (units_takeUnits_le _ _)
  intro nothing
  have lengths := congrArg List.length nothing
  rw [Edit.apply] at lengths
  simp only [Range.wholeLine, indexOf_origin, Nat.zero_max, Text.splice, List.take_zero,
    List.append_nil, List.nil_append, List.length_drop, List.length_nil] at lengths
  omega

/-! ## A line and the rest of the text -/

/-- **A position stays on its line.**  Take a line of a text, and a column that stops in front
of its break.  The position resolves to an index from the start of the line to its break, an
index whose own line number is that of the line, and putting in text without breaks there
changes this line and no other.  If the greatest column stops there and is behind the body,
the range of the whole line replaces the body by any text without breaks and leaves all else:
the other lines, the break and the number of lines.  Only where nothing is put in and an LF
is left behind a CR, the two make one break and there is one line less. -/
theorem position_stays_on_line (t line : Text) (l : Nat) (there : (cut t)[l]? = some line) :
    (∀ column, startOf t l ≤ indexOf t ⟨l, column⟩) ∧
    (∀ column, StopsBefore line column →
      let i := indexOf t ⟨l, column⟩
      i ≤ startOf t l + (body line).length ∧ (positionAt isBreak t i).line = l ∧
        ∀ text, Unbroken text →
          cut (Edit.apply t ⟨some ⟨⟨l, column⟩, ⟨l, column⟩⟩, text⟩) =
            (cut t).set l (covered line column ++ text ++ line.drop (covered line column).length)) ∧
    (StopsBefore line Position.lastColumn → (body line).units ≤ Position.lastColumn →
      ∀ text, Unbroken text →
        let edited := Edit.apply t ⟨some (.wholeLine l), text⟩
        edited = ((cut t).set l (text ++ breakOf line)).flatten ∧
          (¬ (text = [] ∧ LeavesPair t l line) →
            cut edited = (cut t).set l (text ++ breakOf line) ∧
              (cut edited).length = (cut t).length) ∧
          (text = [] ∧ LeavesPair t l line → (cut edited).length + 1 = (cut t).length)) := by
  refine ⟨fun column => startOf_le_indexOf t ⟨l, column⟩, fun column stops => ?_,
    fun stops wide text unbroken => ?_⟩
  · have before_break : indexOf t ⟨l, column⟩ ≤ startOf t l + (body line).length := by
      rw [indexOf_of_line there]
      exact Nat.add_le_add_left (length_covered_le_body (List.mem_of_getElem? there) stops) _
    have number := line_positionAt there (startOf_le_indexOf t ⟨l, column⟩) before_break
    exact ⟨before_break, number, fun text unbroken => cut_insert there stops unbroken⟩
  · have edited := apply_wholeLine there stops wide text
    refine ⟨edited, fun apart => ?_, fun joins => ?_⟩
    · have lines := cut_set there unbroken fun nothing =>
        not_meet_breakOf there fun joins => apart ⟨nothing, joins⟩
      rw [edited, lines]
      exact ⟨rfl, List.length_set⟩
    · rw [edited, joins.1]
      exact length_cut_joined there joins.2

/-- A column far behind the end of a line that CR LF ends, and the whole of that line. -/
theorem position_stays_on_line_wide :
    (cut "a\u2028é😀\r\nb".toList)[1]? = some "é😀\r\n".toList ∧
      cut (Edit.apply "a\u2028é😀\r\nb".toList ⟨some ⟨⟨1, 4294967295⟩, ⟨1, 4294967295⟩⟩, "!".toList⟩) =
        ["a\u2028".toList, "é😀!\r\n".toList, "b".toList] ∧
      cut (Edit.apply "a\u2028é😀\r\nb".toList ⟨some (.wholeLine 1), []⟩) =
        ["a\u2028".toList, "\r\n".toList, "b".toList] := by
  have there : (cut "a\u2028é😀\r\nb".toList)[1]? = some "é😀\r\n".toList := by decide
  have stops : StopsBefore "é😀\r\n".toList 4294967295 := by decide
  obtain ⟨-, inserted, replaced⟩ := position_stays_on_line _ _ 1 there
  refine ⟨there, ?_, ?_⟩
  · exact ((inserted 4294967295 stops).2.2 "!".toList (by decide)).trans (by decide)
  · have kept := (replaced stops (by decide) [] (by decide)).2.1 fun joins =>
      absurd joins.2.1 (by decide)
    exact kept.1.trans (by decide)

/-- **Where a position leaves its line and an edit loses one.**  A column passes over a VT, so
text put in at the end of the first line goes to the second.  Without its body a line between
a CR and its own LF is gone.  And of a line that is wider than the greatest column, a range
over the whole of it leaves a part. -/
theorem position_leaves_line :
    ((positionAt isBreak "a\x0bb".toList (indexOf "a\x0bb".toList ⟨0, 5⟩)).line = 1 ∧
        cut "a\x0bb".toList = ["a\x0b".toList, "b".toList] ∧
        cut (Edit.apply "a\x0bb".toList ⟨some ⟨⟨0, 5⟩, ⟨0, 5⟩⟩, "x".toList⟩) =
          ["a\x0b".toList, "xb".toList]) ∧
      (cut "a\rx\n".toList = ["a\r".toList, "x\n".toList, []] ∧
        cut (Edit.apply "a\rx\n".toList ⟨some (.wholeLine 1), []⟩) = ["a\r\n".toList, []]) ∧
      (cut (List.replicate 0x100000000 'a') = [List.replicate 0x100000000 'a'] ∧
        Edit.apply (List.replicate 0x100000000 'a') ⟨some (.wholeLine 0), []⟩ ≠ []) := by
  have unbroken : Unbroken (List.replicate 0x100000000 'a') := by
    intro c member
    rw [List.eq_of_mem_replicate member]
    decide
  have long : Position.lastColumn < (List.replicate 0x100000000 'a').length := by
    rw [List.length_replicate]
    decide
  refine ⟨⟨by decide, by decide, by decide⟩, ⟨by decide, by decide⟩, ?_, ?_⟩
  · exact cut_of_unbroken unbroken
  · exact apply_wholeLine_ne_nil long

end Lines

end Kickstart
