/-
# Kickstart.Proofs.Document.Bounds -- positions in order, and the calls they lead to

Positions come in the order of their lines and, on one line, of their columns.  Resolving
them keeps that order and never leaves the text (`indexOf_mono`, `indexOf_le`), although
columns are clamped, may fall into the middle of a character, and lines may not be there.
So a range in order is replaced exactly, and one that runs backwards is an insertion.

A text that is held in pieces is not taken apart: it is asked for its lines, for single
characters, for widths and for parts, and each of these calls has its bounds (`Rope`).
Resolving, editing and taking the part of a line before a position are written down once
more with these calls, a call out of its bounds giving no answer.  They always answer, and
what `Lines` and `Edit` say (`resolve?_eq`, `edit?_eq`, `before?_eq`).
-/
import Kickstart.Proofs.Document.Cut

namespace Kickstart

set_option autoImplicit false

/-! ## The order of positions -/

namespace Position

/-- By line, and on one line by column. -/
instance : LE Position :=
  ⟨fun p q => p.line < q.line ∨ p.line = q.line ∧ p.character ≤ q.character⟩

/-- Before, by line, and on one line by column. -/
instance : LT Position :=
  ⟨fun p q => p.line < q.line ∨ p.line = q.line ∧ p.character < q.character⟩

instance (p q : Position) : Decidable (p ≤ q) := inferInstanceAs (Decidable (_ ∨ _))

instance (p q : Position) : Decidable (p < q) := inferInstanceAs (Decidable (_ ∨ _))

theorem le_of_before {p q : Position} (before : p < q) : p ≤ q :=
  before.imp_right fun ⟨same, less⟩ => ⟨same, Nat.le_of_lt less⟩

end Position

/-! ## Columns -/

namespace Text

theorem units_append (t more : Text) : units (t ++ more) = units t + units more := by
  induction t with
  | nil => rw [List.nil_append, units_nil, Nat.zero_add]
  | cons c rest ih => rw [List.cons_append, units_cons, units_cons, ih, Nat.add_assoc]

theorem takeUnits_isPrefix (n : Nat) (t : Text) : takeUnits n t <+: t := by
  induction t generalizing n with
  | nil => exact List.prefix_rfl
  | cons c rest ih =>
      rw [takeUnits]
      split
      · exact List.cons_prefix_cons.mpr ⟨rfl, ih _⟩
      · exact List.nil_prefix

theorem length_takeUnits_mono {n m : Nat} (less : n ≤ m) (t : Text) :
    (takeUnits n t).length ≤ (takeUnits m t).length := by
  induction t generalizing n m with
  | nil => exact Nat.le_refl _
  | cons c rest ih =>
      rw [takeUnits, takeUnits]
      split
      · rw [if_pos (by omega), List.length_cons, List.length_cons]
        exact Nat.succ_le_succ (ih (by omega))
      · exact Nat.zero_le _

/-- A column at the end of a text or behind it covers all of it. -/
theorem takeUnits_of_units_le {n : Nat} {t : Text} (wide : t.units ≤ n) : takeUnits n t = t := by
  induction t generalizing n with
  | nil => rfl
  | cons c rest ih =>
      rw [units_cons] at wide
      rw [takeUnits, if_pos (by omega), ih (by omega)]

/-- A column that a text reaches does not look behind it. -/
theorem takeUnits_append {n : Nat} {t : Text} (reached : n ≤ t.units) (more : Text) :
    takeUnits n (t ++ more) = takeUnits n t := by
  induction t generalizing n with
  | nil =>
      obtain rfl := Nat.le_zero.mp reached
      cases more with
      | nil => rfl
      | cons c rest => exact if_neg (Nat.not_le_of_lt (unitsOf_pos c))
  | cons c rest ih =>
      rw [units_cons] at reached
      rw [List.cons_append, takeUnits, takeUnits]
      split
      · rw [ih (by omega)]
      · rfl

theorem takeUnits_min (n : Nat) (t : Text) : takeUnits (min n t.units) t = takeUnits n t := by
  rcases Nat.le_total n t.units with narrow | wide
  · rw [Nat.min_eq_left narrow]
  · rw [Nat.min_eq_right wide, takeUnits_of_units_le wide, takeUnits_of_units_le (Nat.le_refl _)]

end Text

namespace Lines

open Text

theorem covered_isPrefix (line : Text) (column : Nat) : covered line column <+: line :=
  (takeUnits_isPrefix column _).trans (List.takeWhile_prefix _)

theorem indexOf_of_line {t line : Text} {p : Position} (there : (cut t)[p.line]? = some line) :
    indexOf t p = startOf t p.line + (covered line p.character).length := by
  rw [indexOf, there]

theorem indexOf_of_past {t : Text} {p : Position} (past : (cut t)[p.line]? = none) :
    indexOf t p = t.length := by
  rw [indexOf, past]

/-- A position on a line resolves before the start of the next one, or to it. -/
theorem indexOf_le_startOf {t line : Text} {p : Position} (there : (cut t)[p.line]? = some line) :
    indexOf t p ≤ startOf t (p.line + 1) := by
  rw [indexOf_of_line there, startOf_succ there]
  exact Nat.add_le_add_left (covered_isPrefix line p.character).length_le _

theorem startOf_le_indexOf (t : Text) (p : Position) : startOf t p.line ≤ indexOf t p := by
  cases there : (cut t)[p.line]? with
  | none =>
      rw [indexOf_of_past there]
      exact startOf_le t p.line
  | some line =>
      rw [indexOf_of_line there]
      exact Nat.le_add_right _ _

theorem indexOf_le (t : Text) (p : Position) : indexOf t p ≤ t.length := by
  cases there : (cut t)[p.line]? with
  | none => exact Nat.le_of_eq (indexOf_of_past there)
  | some line => exact Nat.le_trans (indexOf_le_startOf there) (startOf_le t _)

/-- **Resolving keeps the order of positions.** -/
theorem indexOf_mono {t : Text} {p q : Position} (ordered : p ≤ q) : indexOf t p ≤ indexOf t q := by
  cases there : (cut t)[q.line]? with
  | none =>
      rw [indexOf_of_past there]
      exact indexOf_le t p
  | some line =>
      rcases ordered with earlier | ⟨same, less⟩
      · have inside := (List.getElem?_eq_some_iff.mp there).1
        have there_p := List.getElem?_eq_getElem (Nat.lt_trans earlier inside)
        calc indexOf t p ≤ startOf t (p.line + 1) := indexOf_le_startOf there_p
          _ ≤ startOf t q.line := startOf_mono t earlier
          _ ≤ indexOf t q := startOf_le_indexOf t q
      · rw [indexOf_of_line (same ▸ there), indexOf_of_line there, same]
        exact Nat.add_le_add_left (length_takeUnits_mono less _) _

end Lines

/-! ## Calls with bounds -/

namespace Rope

open Text Lines

/-- The index at which a line starts; also of the line behind the last. -/
def lineStart? (t : Text) (l : Nat) : Option Nat :=
  if l ≤ (cut t).length then some (startOf t l) else none

/-- The UTF-16 units before an index. -/
def unitsBefore? (t : Text) (i : Nat) : Option Nat :=
  if i ≤ t.length then some (units (t.take i)) else none

/-- The index of the character that a UTF-16 unit belongs to. -/
def indexOfUnit? (t : Text) (n : Nat) : Option Nat :=
  if n ≤ t.units then some (takeUnits n t).length else none

/-- The part between two indices. -/
def slice? (t : Text) (start stop : Nat) : Option Text :=
  if start ≤ stop ∧ stop ≤ t.length then some ((t.take stop).drop start) else none

/-- The text without the part between two indices. -/
def remove? (t : Text) (start stop : Nat) : Option Text :=
  if start ≤ stop ∧ stop ≤ t.length then some (t.take start ++ t.drop stop) else none

/-- The text with another one put in at an index. -/
def insert? (t : Text) (i : Nat) (text : Text) : Option Text :=
  if i ≤ t.length then some (t.take i ++ text ++ t.drop i) else none

/-- From an index of a line back over the CR and LF in front of it. -/
def contentEnd? (t : Text) : Nat → Option Nat
  | 0 => some 0
  | k + 1 => t[k]?.bind fun c => if isReturn c then contentEnd? t k else some (k + 1)

/-- The index of a position. -/
def resolve? (t : Text) (p : Position) : Option Nat :=
  if (cut t).length ≤ p.line then some t.length
  else do
    let start ← lineStart? t p.line
    let line ← (cut t)[p.line]?
    let stop ← contentEnd? line line.length
    let most ← unitsBefore? line stop
    let column ← indexOfUnit? line (min p.character most)
    return start + column

/-- The text after an edit. -/
def edit? (t : Text) (e : Edit) : Option Text :=
  match e.range with
  | none => some e.text
  | some range => do
    let start ← resolve? t range.start
    let stop ← resolve? t range.stop
    let removed ← remove? t start (max stop start)
    insert? removed start e.text

/-- The part of a position's line before it, if there is such a line. -/
def before? (t : Text) (p : Position) : Option (Option Text) :=
  if (cut t).length ≤ p.line then some none
  else do
    let start ← lineStart? t p.line
    let stop ← resolve? t p
    let found ← slice? t start stop
    return some found

theorem exists_line {t : Text} {l : Nat} (inside : ¬ (cut t).length ≤ l) :
    ∃ line, (cut t)[l]? = some line :=
  ⟨_, List.getElem?_eq_getElem (Nat.lt_of_not_le inside)⟩

theorem lineStart?_of_line {t line : Text} {l : Nat} (there : (cut t)[l]? = some line) :
    lineStart? t l = some (startOf t l) :=
  if_pos (Nat.le_of_lt (List.getElem?_eq_some_iff.mp there).1)

/-- Going back over CR and LF stops where they begin. -/
theorem contentEnd?_append {front tail : Text} (ordinary : ∀ c ∈ front, isReturn c = false)
    (returns : ∀ c ∈ tail, isReturn c = true) {k : Nat} (low : front.length ≤ k)
    (high : k ≤ (front ++ tail).length) : contentEnd? (front ++ tail) k = some front.length := by
  induction k with
  | zero => rw [Nat.le_zero.mp low, contentEnd?]
  | succ k ih =>
      rw [contentEnd?]
      by_cases last : front.length = k + 1
      · have inside : k < front.length := by omega
        rw [List.getElem?_append_left inside, List.getElem?_eq_getElem inside, Option.bind_some,
          ordinary _ (List.getElem_mem inside), if_neg Bool.false_ne_true, last]
      · have behind : front.length ≤ k := by omega
        have inside : k - front.length < tail.length := by
          rw [List.length_append] at high
          omega
        rw [List.getElem?_append_right behind, List.getElem?_eq_getElem inside, Option.bind_some,
          returns _ (List.getElem_mem inside), if_pos rfl]
        exact ih behind (Nat.le_of_succ_le high)

/-- Going back from the end of a line of a text stops at the end of its content. -/
theorem contentEnd?_line {t line : Text} (member : line ∈ cut t) :
    contentEnd? line line.length = some (content line).length := by
  obtain ⟨tail, shape, returns⟩ := (wellCut_cut t).eq_content_append member
  have ordinary : ∀ c ∈ content line, isReturn c = false := by
    intro c inside
    simpa using List.mem_takeWhile_imp inside
  have found := contentEnd?_append ordinary returns (Nat.le_add_right _ _)
    (Nat.le_of_eq List.length_append.symm)
  rwa [← shape, ← List.length_append, ← shape] at found

/-- A column is within the width of a line, once it is clamped to that of the front. -/
theorem indexOfUnit?_append (front tail : Text) (n : Nat) :
    indexOfUnit? (front ++ tail) (min n front.units) = some (takeUnits n front).length := by
  have reached : min n front.units ≤ front.units := Nat.min_le_right _ _
  rw [indexOfUnit?, units_append, if_pos (Nat.le_add_right_of_le reached), takeUnits_append reached,
    takeUnits_min]

/-- **Resolving a position makes no call out of bounds**, and resolves it as `indexOf` does. -/
theorem resolve?_eq (t : Text) (p : Position) : resolve? t p = some (indexOf t p) := by
  rw [resolve?]
  split
  · rename_i past
    rw [indexOf_of_past (List.getElem?_eq_none past)]
  · rename_i inside
    obtain ⟨line, there⟩ := exists_line inside
    have member := List.mem_of_getElem? there
    have front : content line <+: line := List.takeWhile_prefix _
    have most : unitsBefore? line (content line).length = some (units (content line)) := by
      rw [unitsBefore?, if_pos front.length_le, ← List.prefix_iff_eq_take.mp front]
    have column : indexOfUnit? line (min p.character (units (content line))) =
        some (covered line p.character).length := by
      obtain ⟨tail, shape⟩ := front
      have found := indexOfUnit?_append (content line) tail p.character
      rwa [shape] at found
    rw [lineStart?_of_line there, there, indexOf_of_line there]
    simp only [Option.bind_eq_bind, Option.bind_some, contentEnd?_line member, most, column]
    rfl

theorem insert?_of_removed {t : Text} {start : Nat} (bound : start ≤ t.length) (stop : Nat)
    (text : Text) :
    insert? (t.take start ++ t.drop stop) start text = some (t.splice start stop text) := by
  have length_take : (t.take start).length = start := List.length_take_of_le bound
  have within : start ≤ (t.take start ++ t.drop stop).length := by
    rw [List.length_append, length_take]
    exact Nat.le_add_right _ _
  rw [insert?, if_pos within, Text.splice, List.take_left' length_take, List.drop_left' length_take]

/-- **An edit makes no call out of bounds**, and does what `Edit.apply` says. -/
theorem edit?_eq (t : Text) (e : Edit) : edit? t e = some (e.apply t) := by
  obtain ⟨range, text⟩ := e
  cases range with
  | none => rfl
  | some range =>
      have start_le := indexOf_le t range.start
      have stop_le := indexOf_le t range.stop
      have within : indexOf t range.start ≤ max (indexOf t range.start) (indexOf t range.stop) ∧
          max (indexOf t range.start) (indexOf t range.stop) ≤ t.length :=
        ⟨Nat.le_max_left _ _, Nat.max_le.mpr ⟨start_le, stop_le⟩⟩
      simp only [edit?, Edit.apply, resolve?_eq, Option.bind_eq_bind, Option.bind_some,
        Nat.max_comm (indexOf t range.stop)]
      rw [remove?, if_pos within, Option.bind_some, insert?_of_removed start_le]

/-- A part of a line is a part of the text. -/
theorem slice?_line {t line : Text} {l k : Nat} (there : (cut t)[l]? = some line)
    (bound : k ≤ line.length) : slice? t (startOf t l) (startOf t l + k) = some (line.take k) := by
  have within : startOf t l + k ≤ t.length := by
    have last := startOf_le t (l + 1)
    rw [startOf_succ there] at last
    omega
  have front : t.take (startOf t l + k) = ((cut t).take l).flatten ++ line.take k := by
    have moved := congrArg (List.take (startOf t l + k)) (eq_append_of_line there)
    rwa [startOf, List.take_length_add_append, List.take_append_of_le_length bound] at moved
  have part : (t.take (startOf t l + k)).drop (startOf t l) = line.take k := by
    rw [front]
    exact List.drop_left
  rw [slice?, if_pos ⟨Nat.le_add_right _ _, within⟩, part]

/-- **The part of a line before a position is within bounds**, and is what `linePrefix?` says. -/
theorem before?_eq (t : Text) (p : Position) : before? t p = some (linePrefix? t p) := by
  rw [before?]
  split
  · rename_i past
    rw [linePrefix?, List.getElem?_eq_none past, Option.map_none]
  · rename_i inside
    obtain ⟨line, there⟩ := exists_line inside
    have front := covered_isPrefix line p.character
    have found : slice? t (startOf t p.line) (indexOf t p) = some (covered line p.character) := by
      rw [indexOf_of_line there, slice?_line there front.length_le,
        ← List.prefix_iff_eq_take.mp front]
    rw [lineStart?_of_line there, resolve?_eq, linePrefix?, there]
    simp only [Option.bind_eq_bind, Option.bind_some, found]
    rfl

end Rope

/-! ## Ranges -/

namespace Lines

/-- **A range in order is replaced exactly.**  Positions in order resolve to indices in
order, none of them behind the end of the text.  So a change from one position to a later
one, or to itself, replaces what stands between their indices, and taking the greater of
the two has no effect; a change that runs backwards removes nothing and puts its text in at
the index of its start.  Whatever the text, the position and the range, all calls by index
that this takes are within their bounds. -/
theorem ordered_range_replaced (t : Text) :
    (∀ p q : Position, p ≤ q → indexOf t p ≤ indexOf t q ∧ indexOf t q ≤ t.length) ∧
    (∀ (range : Range) (text : Text),
      let start := indexOf t range.start
      let stop := indexOf t range.stop
      (range.start ≤ range.stop →
        max start stop = stop ∧
          Edit.apply t ⟨some range, text⟩ = t.take start ++ text ++ t.drop stop) ∧
      (range.stop < range.start →
        Edit.apply t ⟨some range, text⟩ = t.take start ++ text ++ t.drop start)) ∧
    (∀ p, Rope.resolve? t p = some (indexOf t p)) ∧
    (∀ e, Rope.edit? t e = some (Edit.apply t e)) ∧
    ∀ p, Rope.before? t p = some (linePrefix? t p) := by
  refine ⟨fun p q ordered => ⟨indexOf_mono ordered, indexOf_le t q⟩, fun range text => ?_,
    Rope.resolve?_eq t, Rope.edit?_eq t, Rope.before?_eq t⟩
  constructor
  · intro ordered
    have greater := Nat.max_eq_right (indexOf_mono (t := t) ordered)
    refine ⟨greater, ?_⟩
    rw [Edit.apply]
    simp only [greater, Text.splice]
  · intro backwards
    have greater := Nat.max_eq_left (indexOf_mono (t := t) (Position.le_of_before backwards))
    rw [Edit.apply]
    simp only [greater, Text.splice]

/-- From the middle of a character of two units to a column behind the end of the next line,
and the same range backwards. -/
theorem ordered_range_replaced_astride :
    (⟨0, 2⟩ : Position) ≤ ⟨1, 9⟩ ∧
      Edit.apply "a😀b\r\ncd\n".toList ⟨some ⟨⟨0, 2⟩, ⟨1, 9⟩⟩, "x".toList⟩ = "ax\n".toList ∧
      Edit.apply "a😀b\r\ncd\n".toList ⟨some ⟨⟨1, 9⟩, ⟨0, 2⟩⟩, "x".toList⟩ =
        "a😀b\r\ncdx\n".toList := by
  obtain ⟨-, replaced, -⟩ := ordered_range_replaced "a😀b\r\ncd\n".toList
  refine ⟨by decide, ?_, ?_⟩
  · exact ((replaced ⟨⟨0, 2⟩, ⟨1, 9⟩⟩ "x".toList).1 (by decide)).2.trans (by decide)
  · exact ((replaced ⟨⟨1, 9⟩, ⟨0, 2⟩⟩ "x".toList).2 (by decide)).trans (by decide)

end Lines

end Kickstart
