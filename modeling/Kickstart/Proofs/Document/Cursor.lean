/-
# Kickstart.Proofs.Document.Cursor -- what stands before the cursor

The part of a line before a cursor is measured twice: it stops at the CR or LF that the line
ends with, and it stops where the column is used up.  Both are longest beginnings, of a line
without CR and LF (`begins_content`) and of a width (`begins_takeUnits`), and one after the
other they give the longest beginning that has both properties (`Before`).

A line has CR and LF at its end only (`WellCut.remainder`), so stopping at the first
of them leaves out the end of the line and nothing else.  The other breaks belong to what a
cursor can have before it.
-/
import Kickstart.Proofs.Document.OnLine

namespace Kickstart

set_option autoImplicit false

namespace Text

/-- A beginning of that width is a beginning of the longest one. -/
theorem begins_takeUnits {front t : Text} {n : Nat} (begins : front <+: t)
    (fits : front.units ≤ n) : front <+: takeUnits n t := by
  induction front generalizing t n with
  | nil => exact List.nil_prefix
  | cons c front ih =>
      obtain ⟨rest, rfl⟩ := begins
      rw [units_cons] at fits
      rw [List.cons_append, takeUnits, if_pos (by omega)]
      exact List.cons_prefix_cons.mpr ⟨rfl, ih (List.prefix_append front rest) (by omega)⟩

/-- A column in the middle of a character stops in front of it. -/
theorem takeUnits_astride {front : Text} {c : Char} {n : Nat} (reached : front.units ≤ n)
    (astride : n < front.units + unitsOf c) (rest : Text) :
    takeUnits n (front ++ c :: rest) = front := by
  induction front generalizing n with
  | nil =>
      rw [units_nil, Nat.zero_add] at astride
      exact if_neg (Nat.not_le_of_lt astride)
  | cons d front ih =>
      rw [units_cons] at reached astride
      rw [List.cons_append, takeUnits, if_pos (by omega), ih (by omega) (by omega)]

end Text

namespace Lines

open Text

/-! ## Beginnings without CR and LF -/

/-- A text without CR and LF. -/
def Returnless (t : Text) : Prop := ∀ c ∈ t, isReturn c = false

theorem returnless_iff_all {t : Text} : (t.all fun c => !isReturn c) = true ↔ Returnless t := by
  simp [Returnless]

instance (t : Text) : Decidable (Returnless t) := decidable_of_decidable_of_iff returnless_iff_all

theorem returnless_content (line : Text) : Returnless (content line) := by
  intro c inside
  simpa using List.mem_takeWhile_imp inside

theorem Returnless.content_append {front : Text} (returnless : Returnless front) (more : Text) :
    content (front ++ more) = front ++ content more := by
  refine List.takeWhile_append_of_pos ?_
  intro c inside
  simp [returnless c inside]

/-- A beginning without CR and LF ends before the first of them. -/
theorem begins_content {front line : Text} (begins : front <+: line)
    (returnless : Returnless front) : front <+: content line := by
  obtain ⟨rest, rfl⟩ := begins
  exact ⟨content rest, (returnless.content_append rest).symm⟩

/-- What a line can have behind its content. -/
def Remainder (tail : Text) : Prop :=
  tail = [] ∨ tail = ['\n'] ∨ tail = ['\r'] ∨ tail = ['\r', '\n']

theorem WellCut.remainder {ls : List Text} (wellCut : WellCut ls) {line : Text}
    (member : line ∈ ls) : ∃ tail, line = content line ++ tail ∧ Remainder tail := by
  rcases wellCut.returns_or_single member with returns | ⟨c, ordinary, single⟩
  · refine ⟨breakOf line, ?_, ?_⟩
    · rw [content_eq_body returns, body_append_breakOf]
    · rcases wellCut.breakOf_cases member with unbroken | pair | ⟨c, -, single⟩
      · exact .inl (breakOf_eq_nil.mpr unbroken)
      · exact .inr (.inr (.inr pair))
      · have stops : isReturn c = true := returns c (by simp [single])
        simp only [isReturn, Bool.or_eq_true, decide_eq_true_eq] at stops
        rcases stops with rfl | rfl
        · exact .inr (.inl single)
        · exact .inr (.inr (.inl single))
  · -- any other break is within the content
    refine ⟨[], ?_, .inl rfl⟩
    rw [content_eq_self single ordinary, List.append_nil]

/-! ## Before the cursor -/

/-- A beginning of a line that a cursor in a column can have before it. -/
structure Before (line : Text) (column : Nat) (front : Text) : Prop where
  begins : front <+: line
  returnless : Returnless front
  fits : front.units ≤ column

theorem before_covered (line : Text) (column : Nat) : Before line column (covered line column) where
  begins := covered_isPrefix line column
  returnless := by
    intro c inside
    exact returnless_content line c ((takeUnits_isPrefix column _).subset inside)
  fits := units_takeUnits_le column _

theorem Before.begins_covered {line front : Text} {column : Nat} (before : Before line column front) :
    front <+: covered line column :=
  begins_takeUnits (begins_content before.begins before.returnless) before.fits

/-- A column in the middle of a character covers what stands in front of the character. -/
theorem covered_astride {front rest : Text} {c : Char} {column : Nat}
    (returnless : Returnless front) (reached : front.units ≤ column)
    (astride : column < front.units + unitsOf c) : covered (front ++ c :: rest) column = front := by
  rw [covered, returnless.content_append]
  by_cases stops : isReturn c = true
  · have nothing : content (c :: rest) = [] := by simp [content, stops]
    rw [nothing, List.append_nil, takeUnits_of_units_le reached]
  · have goes_on : content (c :: rest) = c :: content rest := by simp [content, stops]
    rw [goes_on, takeUnits_astride reached astride]

/-- **The longest beginning of the line before the cursor.**  The lines of a text, each with
its break, make up the text, and there is no part before a cursor exactly when its line is
not among them.  Otherwise the part is a beginning of the line without CR and LF that is no
wider than the column, and every such beginning is a beginning of it.  So a column in the
middle of a character leaves the character out, and a column at the end of the line or behind
it gives the whole line but the CR and LF at its end. -/
theorem longest_before_cursor (t : Text) (p : Position) :
    WellCut (cut t) ∧ (cut t).flatten = t ∧
    (linePrefix? t p = none ↔ (cut t).length ≤ p.line) ∧
    ∀ line, (cut t)[p.line]? = some line →
      ∃ found, linePrefix? t p = some found ∧ Before line p.character found ∧
        (∀ front, Before line p.character front → front <+: found) ∧
        (∀ front c rest, line = front ++ c :: rest → Returnless front →
          front.units ≤ p.character → p.character < front.units + unitsOf c → found = front) ∧
        ∃ front tail, line = front ++ tail ∧ Returnless front ∧ Remainder tail ∧
          (front.units ≤ p.character → found = front) := by
  refine ⟨wellCut_cut t, flatten_cut t, by simp [linePrefix?], ?_⟩
  intro line there
  have taken : linePrefix? t p = some (covered line p.character) := by
    rw [linePrefix?, there, Option.map_some]
  refine ⟨covered line p.character, taken, before_covered _ _, ?_, ?_, ?_⟩
  · intro front before
    exact before.begins_covered
  · rintro front c rest rfl returnless reached astride
    exact covered_astride returnless reached astride
  · obtain ⟨tail, shape, remainder⟩ := (wellCut_cut t).remainder (List.mem_of_getElem? there)
    refine ⟨content line, tail, shape, returnless_content line, remainder, ?_⟩
    intro reached
    exact takeUnits_of_units_le reached

/-- The middle of a character of two units on a line behind a NEL. -/
theorem longest_before_cursor_astride :
    (cut "é\u0085a😀b\r\n".toList)[1]? = some "a😀b\r\n".toList ∧
      linePrefix? "é\u0085a😀b\r\n".toList ⟨1, 2⟩ = some "a".toList := by
  have second : (cut "é\u0085a😀b\r\n".toList)[1]? = some "a😀b\r\n".toList := by decide
  obtain ⟨-, -, -, there⟩ := longest_before_cursor "é\u0085a😀b\r\n".toList ⟨1, 2⟩
  obtain ⟨found, taken, -, -, astride, -⟩ := there "a😀b\r\n".toList second
  have same : found = "a".toList :=
    astride "a".toList '😀' "b\r\n".toList (by decide) (by decide) (by decide) (by decide)
  refine ⟨second, ?_⟩
  rw [← same]
  exact taken

end Lines

end Kickstart
