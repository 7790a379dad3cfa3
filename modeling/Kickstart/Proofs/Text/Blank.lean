/-
# Kickstart.Proofs.Text.Blank -- text that is white space, and text without any

A text can be all white space (`AllBlank`) or hold none (`Solid`).  White space in front of a
text does not show once the text is trimmed (`trimStart_append`), and trimming leaves nothing
of a text exactly if it is all white space (`trim_eq_nil_iff`).
-/
import Mathlib.Data.List.TakeWhile
import Kickstart.Text.Blank

namespace Kickstart.Text

set_option autoImplicit false

/-- Nothing but white space. -/
def AllBlank (t : Text) : Prop := ∀ c ∈ t, isBlank c = true

/-- No white space anywhere. -/
def Solid (t : Text) : Prop := ∀ c ∈ t, isBlank c = false

instance (t : Text) : Decidable t.AllBlank := List.decidableBAll _ t

instance (t : Text) : Decidable t.Solid := List.decidableBAll _ t

variable {t margin word : Text}

theorem trimStart_append (blank : margin.AllBlank) (t : Text) :
    trimStart (margin ++ t) = trimStart t :=
  List.dropWhile_append_of_pos blank

/-- A text that starts with a word is not trimmed there. -/
theorem trimStart_of_solid (filled : word ≠ []) (solid : word.Solid) (rest : Text) :
    trimStart (word ++ rest) = word ++ rest := by
  cases word with
  | nil => exact absurd rfl filled
  | cons c word => simp [trimStart, solid c List.mem_cons_self]

/-- What is left after trimming does not start with white space. -/
theorem head_trimStart {c : Char} {rest : Text} (left : trimStart t = c :: rest) :
    isBlank c = false := by
  have visible := List.head?_dropWhile_not isBlank t
  rw [← trimStart, left] at visible
  simpa using visible

theorem trimStart_eq_nil_iff : trimStart t = [] ↔ t.AllBlank := List.dropWhile_eq_nil_iff

theorem trim_eq_nil_iff : trim t = [] ↔ t.AllBlank := by
  have whole : trimEnd (trimStart t) = [] ↔ (trimStart t).AllBlank := by
    rw [trimEnd, List.reverse_eq_nil_iff, List.dropWhile_eq_nil_iff]
    simp only [List.mem_reverse]
    rfl
  rw [trim, whole]
  constructor
  · intro blank
    cases left : trimStart t with
    | nil => exact trimStart_eq_nil_iff.mp left
    | cons c rest =>
        rw [left] at blank
        exact absurd (blank c List.mem_cons_self) (by simp [head_trimStart left])
  · intro blank
    rw [trimStart_eq_nil_iff.mpr blank]
    exact fun c member => absurd member List.not_mem_nil

end Kickstart.Text
