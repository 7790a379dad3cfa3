/-
# Kickstart.Proofs.Document.Position -- the position of an index

A position is how an editor names an index of a text: the number of line breaks that
end at or before it, and the UTF-16 units between the last of them and the index
(`positionAt`).  What counts as a line end is a parameter, because the two sides of a
session need not agree on it: `isBreak` is the one that `Lines.cut` goes by.

An index inside a CR LF has no position of its own (`insidePair`).  All others are
found again: `indexOf_positionAt` says so for every class of line ends that holds CR
and LF, as long as the class agrees with `isBreak` on what stands before the last
character in front of the index.  Agreement on that last character is not needed,
since a column reaches past every line end but CR and LF.

Replacing the text between two such indices through their positions is therefore
exact (`apply_positionAt`; for the line breaks of `cut`, which leave no condition,
`edit_between_positions_exact`).
-/
import Kickstart.Document.Edit
import Kickstart.Proofs.Document.Lines

namespace Kickstart.Lines

set_option autoImplicit false

open Text

/-! ## Positions -/

/-- A line break ends right before the index. -/
def breakEndsAt (isEnd : Char → Bool) (t : Text) : Nat → Bool
  | 0 => false
  | k + 1 =>
    match t.drop k with
    | [] => false
    | c :: rest => endsLine isEnd c rest

/-- Where the line breaks end that end at or before an index, in order. -/
def breakEnds (isEnd : Char → Bool) (t : Text) (i : Nat) : List Nat :=
  (List.range (i + 1)).filter (breakEndsAt isEnd t)

/-- The position of an index: the breaks that end at or before it, and the UTF-16 units
from the end of the last one. -/
def positionAt (isEnd : Char → Bool) (t : Text) (i : Nat) : Position :=
  let ends := breakEnds isEnd t i
  ⟨ends.length, units ((t.take i).drop (ends.getLastD 0))⟩

/-- The index lies between the CR and the LF of a CR LF. -/
def insidePair (t : Text) : Nat → Bool
  | 0 => false
  | k + 1 => ['\r', '\n'].isPrefixOf (t.drop k)

variable {isEnd : Char → Bool}

/-! ## Positions, one character at a time -/

theorem breakEndsAt_cons_one (c : Char) (rest : Text) :
    breakEndsAt isEnd (c :: rest) 1 = endsLine isEnd c rest := rfl

theorem breakEndsAt_cons_succ (c : Char) (rest : Text) (k : Nat) :
    breakEndsAt isEnd (c :: rest) (k + 2) = breakEndsAt isEnd rest (k + 1) := rfl

/-- No break ends at the start, so the ends are those at positive indices. -/
theorem breakEnds_eq_map (t : Text) (i : Nat) :
    breakEnds isEnd t i =
      ((List.range i).filter fun k => breakEndsAt isEnd t (k + 1)).map (· + 1) := by
  unfold breakEnds
  rw [List.range_succ_eq_map, List.filter_cons_of_neg (by simp [breakEndsAt]), List.filter_map]
  rfl

theorem breakEnds_cons (c : Char) (rest : Text) (i : Nat) :
    breakEnds isEnd (c :: rest) (i + 1) =
      (if endsLine isEnd c rest then [1] else []) ++ (breakEnds isEnd rest i).map (· + 1) := by
  rw [breakEnds_eq_map, breakEnds_eq_map, List.range_succ_eq_map, List.filter_cons, List.filter_map]
  simp only [Nat.zero_add, breakEndsAt_cons_one, Function.comp_def, Nat.succ_eq_add_one,
    breakEndsAt_cons_succ]
  split <;> simp

theorem getLastD_map_succ (ends : List Nat) (start : Nat) :
    (ends.map (· + 1)).getLastD (start + 1) = ends.getLastD start + 1 := by
  induction ends generalizing start with
  | nil => rfl
  | cons first later ih => rw [List.map_cons, List.getLastD_cons, List.getLastD_cons, ih]

theorem positionAt_zero (t : Text) : positionAt isEnd t 0 = ⟨0, 0⟩ := rfl

theorem positionAt_nil (i : Nat) : positionAt isEnd [] i = ⟨0, 0⟩ := by
  have none : breakEnds isEnd [] i = [] := by
    rw [breakEnds_eq_map, List.map_eq_nil_iff, List.filter_eq_nil_iff]
    simp [breakEndsAt]
  simp [positionAt, none]

theorem positionAt_cons_of_ends {c : Char} {rest : Text} (ends : endsLine isEnd c rest = true)
    (i : Nat) :
    positionAt isEnd (c :: rest) (i + 1) =
      ⟨(positionAt isEnd rest i).line + 1, (positionAt isEnd rest i).character⟩ := by
  unfold positionAt
  rw [breakEnds_cons, if_pos ends]
  simp only [List.singleton_append, List.length_cons, List.length_map, List.getLastD_cons]
  rw [getLastD_map_succ, List.take_succ_cons, List.drop_succ_cons]

theorem positionAt_cons_of_inside {c : Char} {rest : Text} (inside : endsLine isEnd c rest = false)
    (i : Nat) :
    positionAt isEnd (c :: rest) (i + 1) =
      if (positionAt isEnd rest i).line = 0 then
        ⟨0, unitsOf c + (positionAt isEnd rest i).character⟩
      else positionAt isEnd rest i := by
  unfold positionAt
  rw [breakEnds_cons, inside]
  cases breakEnds isEnd rest i with
  | nil => simp
  | cons first later =>
      simp only [Bool.false_eq_true, if_false, List.nil_append, List.map_cons, List.length_cons,
        List.length_map, List.getLastD_cons, Nat.add_eq_zero_iff, Nat.one_ne_zero, and_false]
      rw [getLastD_map_succ, List.take_succ_cons, List.drop_succ_cons]

/-! ## Indices inside a CR LF -/

theorem insidePair_cons_succ (c : Char) (rest : Text) (k : Nat) :
    insidePair (c :: rest) (k + 2) = insidePair rest (k + 1) := rfl

theorem insidePair_tail {c : Char} {rest : Text} {i : Nat}
    (outside : insidePair (c :: rest) (i + 1) = false) : insidePair rest i = false := by
  cases i with
  | zero => rfl
  | succ k => rwa [insidePair_cons_succ] at outside

/-- A class of line ends that holds CR and LF and no more than the breaks of `cut`. -/
structure EndClass (isEnd : Char → Bool) : Prop where
  returns : ∀ c, isReturn c = true → isEnd c = true
  breaks : ∀ c, isEnd c = true → isBreak c = true

theorem endClass_isBreak : EndClass isBreak := ⟨fun _ => isBreak_of_isReturn, fun _ => id⟩

theorem endClass_isReturn : EndClass isReturn := ⟨fun _ => id, fun _ => isBreak_of_isReturn⟩

theorem EndClass.endsLine_isBreak {c : Char} {rest : Text} (ends : EndClass isEnd)
    (closes : endsLine isEnd c rest = true) : endsLine isBreak c rest = true := by
  simp only [endsLine, Bool.and_eq_true] at closes ⊢
  exact ⟨ends.breaks c closes.1, closes.2⟩

/-- In front of an index on the first line there is no CR and no LF, unless the index lies
inside a CR LF. -/
theorem EndClass.isReturn_eq_false {c : Char} {rest : Text} {i : Nat} (ends : EndClass isEnd)
    (outside : insidePair (c :: rest) (i + 1) = false) (stays : endsLine isEnd c rest = false)
    (first : (positionAt isEnd rest i).line = 0) : isReturn c = false := by
  cases stops : isReturn c with
  | false => rfl
  | true =>
      obtain ⟨rfl, following⟩ := pair_of_isReturn (ends.returns c) stops stays
      obtain ⟨after, rfl⟩ := List.head?_eq_some_iff.mp following
      cases i with
      | zero => simp [insidePair] at outside
      | succ k =>
          have closes : endsLine isEnd '\n' after = true := by
            simp [endsLine, ends.returns '\n' (by decide)]
          rw [positionAt_cons_of_ends closes] at first
          exact absurd first (Nat.succ_ne_zero _)

/-- A character on whose line end the class and `cut` differ is a break that no column
stops at. -/
theorem EndClass.differ {c : Char} {rest : Text} (ends : EndClass isEnd)
    (stays : endsLine isEnd c rest = false) (breaks : endsLine isBreak c rest = true) :
    isBreak c = true ∧ isEnd c = false ∧ isReturn c = false := by
  simp only [endsLine, Bool.and_eq_true] at breaks
  have ordinary : isEnd c = false := by simpa [endsLine, breaks.2] using stays
  refine ⟨breaks.1, ordinary, ?_⟩
  cases stops : isReturn c with
  | false => rfl
  | true => exact absurd (ends.returns c stops) (by simp [ordinary])

/-! ## Resolving the position of an index -/

/-- **The position of an index resolves to the index**, for every class of line ends that
agrees with the breaks of `cut` on what stands before the last character in front of it. -/
theorem indexOf_positionAt (ends : EndClass isEnd) {t : Text} {i : Nat} (bound : i ≤ t.length)
    (outside : insidePair t i = false)
    (agree : ∀ c ∈ t.take (i - 1), isBreak c = true → isEnd c = true) :
    indexOf t (positionAt isEnd t i) = i := by
  induction t generalizing i with
  | nil =>
      obtain rfl := Nat.le_zero.mp bound
      rw [positionAt_zero, indexOf_origin]
  | cons c rest ih =>
      cases i with
      | zero => rw [positionAt_zero, indexOf_origin]
      | succ i =>
          have rest_agree : ∀ d ∈ rest.take (i - 1), isBreak d = true → isEnd d = true := by
            intro d member
            cases i with
            | zero => simp at member
            | succ k => exact agree d (List.mem_cons_of_mem c member)
          have found := ih (Nat.le_of_succ_le_succ bound) (insidePair_tail outside) rest_agree
          cases closes : endsLine isEnd c rest with
          | true =>
              rw [positionAt_cons_of_ends closes, indexOf_cons_of_ends (ends.endsLine_isBreak closes),
                found]
          | false =>
              rw [positionAt_cons_of_inside closes]
              cases breaks : endsLine isBreak c rest with
              | true =>
                  -- The classes differ on `c`, so `c` is the last character before the index.
                  obtain ⟨breaks_c, ordinary, stays⟩ := ends.differ closes breaks
                  have last : i = 0 := by
                    cases i with
                    | zero => rfl
                    | succ k =>
                        exact absurd (agree c List.mem_cons_self breaks_c) (by simp [ordinary])
                  subst last
                  rw [positionAt_zero, if_pos rfl, indexOf_cons_of_ends_first breaks, if_neg]
                  simp [stays]
              | false =>
                  cases place : positionAt isEnd rest i with
                  | mk line column =>
                      rw [place] at found
                      cases line with
                      | zero =>
                          have stays := ends.isReturn_eq_false outside closes (by rw [place])
                          rw [if_pos rfl, indexOf_cons_of_inside_first breaks,
                            if_neg (by simp [stays]), Nat.add_sub_cancel_left, found]
                      | succ line =>
                          rw [if_neg (Nat.succ_ne_zero line), indexOf_cons_of_inside breaks, found]

/-- A text of fewer than 2^32 units has no position that 32 bits cannot hold. -/
theorem positionAt_lt {t : Text} {i : Nat} (bound : i ≤ t.length) (short : t.units < 0x100000000) :
    (positionAt isEnd t i).line < 0x100000000 ∧ (positionAt isEnd t i).character < 0x100000000 := by
  have breaks : (breakEnds isEnd t i).length ≤ i := by
    rw [breakEnds_eq_map, List.length_map]
    simpa using List.length_filter_le (fun k => breakEndsAt isEnd t (k + 1)) (List.range i)
  have units_ge := length_le_units t
  constructor
  · show (breakEnds isEnd t i).length < 0x100000000
    omega
  · exact Nat.lt_of_le_of_lt (units_drop_take_le t _ _) short

/-! ## Edits between two positions -/

/-- Replacing what stands between the positions of two indices replaces what stands between
the indices. -/
theorem apply_positionAt (ends : EndClass isEnd) {t : Text} {start stop : Nat}
    (ordered : start ≤ stop) (bound : stop ≤ t.length)
    (outside_start : insidePair t start = false) (outside_stop : insidePair t stop = false)
    (agree : ∀ c ∈ t.take (stop - 1), isBreak c = true → isEnd c = true) (text : Text) :
    Edit.apply t ⟨some ⟨positionAt isEnd t start, positionAt isEnd t stop⟩, text⟩ =
      t.splice start stop text := by
  have agree_start : ∀ c ∈ t.take (start - 1), isBreak c = true → isEnd c = true :=
    fun c member => agree c (List.take_subset_take_left t (by omega) member)
  have at_start := indexOf_positionAt ends (Nat.le_trans ordered bound) outside_start agree_start
  have at_stop := indexOf_positionAt ends bound outside_stop agree
  simp only [Edit.apply, at_start, at_stop, Nat.max_eq_right ordered]

/-- **Edits between positions are exact.**  With the line breaks of `cut`, every index
outside a CR LF is found again from its position, and 32 bits hold the position of a text
of fewer than 2^32 units; so a change from the position of one cut point of a text to that
of another replaces exactly what stands between them. -/
theorem edit_between_positions_exact :
    (∀ (t : Text) (i : Nat), i ≤ t.length → insidePair t i = false →
      indexOf t (positionAt isBreak t i) = i ∧
        (t.units < 0x100000000 →
          (positionAt isBreak t i).line < 0x100000000 ∧
            (positionAt isBreak t i).character < 0x100000000)) ∧
    ∀ p a q b : Text,
      insidePair (p ++ a ++ q) p.length = false →
      insidePair (p ++ a ++ q) (p.length + a.length) = false →
      Edit.apply (p ++ a ++ q)
        ⟨some ⟨positionAt isBreak (p ++ a ++ q) p.length,
            positionAt isBreak (p ++ a ++ q) (p.length + a.length)⟩, b⟩ = p ++ b ++ q := by
  refine ⟨fun t i bound outside => ⟨?_, positionAt_lt bound⟩, fun p a q b start stop => ?_⟩
  · exact indexOf_positionAt endClass_isBreak bound outside fun _ _ => id
  · have bound : p.length + a.length ≤ (p ++ a ++ q).length := by simp
    rw [apply_positionAt endClass_isBreak (Nat.le_add_right _ _) bound start stop fun _ _ => id]
    have before : (p ++ a ++ q).take p.length = p := by simp [List.append_assoc]
    have after : (p ++ a ++ q).drop (p.length + a.length) = q := by
      rw [← List.length_append, List.drop_left]
    rw [Text.splice, before, after]

/-- A change behind a character of two units, NEL and CR LF, up to the next CR LF. -/
theorem edit_behind_pair_exact :
    insidePair "# 😀\u0085x\r\ny😀z\r\n".toList 8 = false ∧
      insidePair "# 😀\u0085x\r\ny😀z\r\n".toList 10 = false ∧
      Edit.apply "# 😀\u0085x\r\ny😀z\r\n".toList ⟨some ⟨⟨2, 1⟩, ⟨2, 4⟩⟩, "é".toList⟩ =
        "# 😀\u0085x\r\nyé\r\n".toList :=
  ⟨by decide, by decide, edit_between_positions_exact.2 "# 😀\u0085x\r\ny".toList "😀z".toList
    "\r\n".toList "é".toList (by decide) (by decide)⟩

end Kickstart.Lines
