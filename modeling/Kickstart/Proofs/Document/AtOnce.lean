/-
# Kickstart.Proofs.Document.AtOnce -- several cursors

Several cursors replace several parts of a text.  An editor sends such a change as one batch
from the back of the text to the front, with the positions that the parts have in the text
before any of them is replaced, although each change of a batch is made to what the ones
before it left.

What is meant is that all parts are replaced at once.  `atOnce` says it index by index of the
one text: which texts are put in there, and whether its character stays.  The order of the
replacements does not enter, except for texts that are put in at the same index.

In a text without CR whether a line ends depends on one character alone, so a position is
given by what stands before it (`positionAt_congr`).  A replacement behind an index therefore
leaves its position where it was, whatever line breaks come and go at the very index, and the
replacements that are left over mean the same in the new text (`atOnce_splice`).
-/
import Kickstart.Document.Store
import Kickstart.Proofs.Document.Position

namespace Kickstart

set_option autoImplicit false

open Lines

/-! ## Positions in a text without CR -/

namespace Lines

variable {isEnd : Char → Bool}

theorem endsLine_of_ne_return {c : Char} (ordinary : c ≠ '\r') (rest : Text) :
    endsLine isEnd c rest = isEnd c := by
  simp [endsLine, ordinary]

/-- Without CR, a character ends its line whatever follows. -/
theorem breakEndsAt_succ {t : Text} {k : Nat} (ordinary : t[k]? ≠ some '\r') :
    breakEndsAt isEnd t (k + 1) = t[k]?.any isEnd := by
  rw [breakEndsAt]
  cases shape : t.drop k with
  | nil =>
      have past : t[k]? = none := List.getElem?_eq_none (List.drop_eq_nil_iff.mp shape)
      simp [past]
  | cons c rest =>
      have here : t[k]? = some c := by
        rw [← Nat.add_zero k, ← List.getElem?_drop, shape]
        rfl
      rw [here] at ordinary
      simp [here, endsLine_of_ne_return (fun same => ordinary (congrArg some same))]

/-- **A position depends on what stands before it**, in a text without CR. -/
theorem positionAt_congr {t other : Text} {i : Nat} (same : other.take i = t.take i)
    (ordinary : '\r' ∉ t) : positionAt isEnd other i = positionAt isEnd t i := by
  have ends : breakEnds isEnd other i = breakEnds isEnd t i := by
    refine List.filter_congr ?_
    intro k member
    cases k with
    | zero => rfl
    | succ k =>
        have before : k < i := by
          have := List.mem_range.mp member
          omega
        have here : other[k]? = t[k]? := by
          rw [← List.getElem?_take_of_lt before, same, List.getElem?_take_of_lt before]
        have not_return : t[k]? ≠ some '\r' := by
          intro found
          exact ordinary (List.mem_of_getElem? found)
        rw [breakEndsAt_succ not_return, breakEndsAt_succ (here ▸ not_return), here]
  rw [positionAt, positionAt, ends, same]

theorem insidePair_eq_false {t : Text} (ordinary : '\r' ∉ t) (i : Nat) : insidePair t i = false := by
  cases i with
  | zero => rfl
  | succ k =>
      rw [insidePair, Bool.eq_false_iff]
      intro pair
      obtain ⟨rest, shape⟩ := List.isPrefixOf_iff_prefix.mp pair
      refine ordinary (List.mem_of_mem_drop (i := k) ?_)
      rw [← shape]
      exact List.mem_cons_self

end Lines

/-! ## Around a replaced part -/

namespace Text

variable {t : Text} {start stop : Nat}

theorem take_splice {i : Nat} (bound : start ≤ t.length) (before : i ≤ start) (text : Text) :
    (t.splice start stop text).take i = t.take i := by
  have reached : i ≤ (t.take start).length := by
    rw [List.length_take_of_le bound]
    exact before
  rw [splice, List.append_assoc, List.take_append_of_le_length reached, List.take_take,
    Nat.min_eq_left before]

theorem drop_splice (bound : start ≤ t.length) (text : Text) :
    (t.splice start stop text).drop start = text ++ t.drop stop := by
  rw [splice, List.append_assoc, List.drop_left' (List.length_take_of_le bound)]

theorem le_length_splice (bound : start ≤ t.length) (text : Text) :
    start ≤ (t.splice start stop text).length := by
  rw [splice, List.append_assoc, List.length_append, List.length_take_of_le bound]
  exact Nat.le_add_right _ _

theorem not_mem_splice {c : Char} {text : Text} (not_before : c ∉ t) (not_new : c ∉ text) :
    c ∉ t.splice start stop text := by
  simp only [splice, List.mem_append, not_or]
  refine ⟨⟨?_, not_new⟩, ?_⟩
  · intro member
    exact not_before (List.mem_of_mem_take member)
  · intro member
    exact not_before (List.mem_of_mem_drop member)

end Text

/-! ## Replacements -/

/-- A part of a text, from one index to another, and what takes its place. -/
structure Replacement where
  start : Nat
  stop : Nat
  text : Text
  deriving Repr, DecidableEq

namespace Replacement

/-- Parts of a text that do not overlap, from the back to the front. -/
def Descending (t : Text) (rs : List Replacement) : Prop :=
  (∀ r ∈ rs, r.start ≤ r.stop ∧ r.stop ≤ t.length) ∧
    rs.Pairwise fun r next => next.stop ≤ r.start

instance (t : Text) (rs : List Replacement) : Decidable (Descending t rs) :=
  inferInstanceAs (Decidable (_ ∧ _))

theorem Descending.head {t : Text} {r : Replacement} {later : List Replacement}
    (descending : Descending t (r :: later)) : r.start ≤ r.stop ∧ r.stop ≤ t.length :=
  descending.1 r List.mem_cons_self

theorem Descending.earlier {t : Text} {r : Replacement} {later : List Replacement}
    (descending : Descending t (r :: later)) :
    ∀ s ∈ later, s.start ≤ s.stop ∧ s.stop ≤ r.start := by
  intro s member
  obtain ⟨parts, apart⟩ := descending
  exact ⟨(parts s (List.mem_cons_of_mem r member)).1, List.rel_of_pairwise_cons apart member⟩

/-- The other parts are parts of every text that reaches to the first. -/
theorem Descending.tail {t other : Text} {r : Replacement} {later : List Replacement}
    (descending : Descending t (r :: later)) (reached : r.start ≤ other.length) :
    Descending other later := by
  refine ⟨?_, descending.2.of_cons⟩
  intro s member
  have := descending.earlier s member
  omega

/-- The edit that an editor sends for a replacement, with positions in a text. -/
def edit (isEnd : Char → Bool) (t : Text) (r : Replacement) : Edit :=
  ⟨some ⟨positionAt isEnd t r.start, positionAt isEnd t r.stop⟩, r.text⟩

/-- What is put in at an index; of two texts, that of the later replacement in front. -/
def putIn : List Replacement → Nat → Text
  | [], _ => []
  | r :: later, i => putIn later i ++ if r.start = i then r.text else []

/-- The character at an index is replaced. -/
def covers (rs : List Replacement) (i : Nat) : Bool := rs.any fun r => r.start ≤ i && i < r.stop

/-- What becomes of a part of a text that begins at an index. -/
def walk (rs : List Replacement) : Nat → Text → Text
  | _, [] => []
  | i, c :: rest => putIn rs i ++ (if covers rs i then [] else [c]) ++ walk rs (i + 1) rest

/-- The text with all parts replaced at once. -/
def atOnce (t : Text) (rs : List Replacement) : Text := walk rs 0 t ++ putIn rs t.length

/-! ## At once -/

theorem walk_append (rs : List Replacement) (i : Nat) (front rest : Text) :
    walk rs i (front ++ rest) = walk rs i front ++ walk rs (i + front.length) rest := by
  induction front generalizing i with
  | nil => rfl
  | cons c front ih =>
      rw [List.cons_append, walk, walk, ih, List.length_cons, List.append_assoc, List.append_assoc,
        List.append_assoc, Nat.add_right_comm, Nat.add_assoc]

theorem walk_congr {rs others : List Replacement} {i stop : Nat}
    (same : ∀ k, k < stop → putIn rs k = putIn others k ∧ covers rs k = covers others k)
    {t : Text} (bound : i + t.length ≤ stop) : walk rs i t = walk others i t := by
  induction t generalizing i with
  | nil => rfl
  | cons c rest ih =>
      rw [List.length_cons] at bound
      obtain ⟨texts, kept⟩ := same i (by omega)
      rw [walk, walk, texts, kept, ih (by omega)]

theorem putIn_behind {rs : List Replacement} {start i : Nat} (before : ∀ r ∈ rs, r.start ≤ start)
    (behind : start < i) : putIn rs i = [] := by
  induction rs with
  | nil => rfl
  | cons r later ih =>
      have here := before r List.mem_cons_self
      rw [putIn, ih fun s member => before s (List.mem_cons_of_mem r member), if_neg (by omega)]
      rfl

theorem covers_behind {rs : List Replacement} {start i : Nat} (before : ∀ r ∈ rs, r.stop ≤ start)
    (behind : start ≤ i) : covers rs i = false := by
  simp only [covers, List.any_eq_false, Bool.and_eq_true, decide_eq_true_eq, not_and]
  intro r member _
  have := before r member
  omega

theorem covers_cons (r : Replacement) (later : List Replacement) (i : Nat) :
    covers (r :: later) i = (decide (r.start ≤ i ∧ i < r.stop) || covers later i) := by
  rw [covers, List.any_cons, Bool.decide_and]
  rfl

/-- From the start of the last part on, there is what is put in, and what stands behind. -/
theorem walk_from {rs : List Replacement} {start stop i : Nat}
    (before : ∀ r ∈ rs, r.start ≤ start)
    (covered : ∀ k, start ≤ k → covers rs k = decide (k < stop)) (reached : start ≤ i) (t : Text) :
    walk rs i t ++ putIn rs (i + t.length) = putIn rs i ++ t.drop (stop - i) := by
  induction t generalizing i with
  | nil => simp [walk]
  | cons c rest ih =>
      have later := ih (i := i + 1) (by omega)
      rw [putIn_behind before (show start < i + 1 by omega), List.nil_append] at later
      rw [walk, covered i reached, List.append_assoc, List.length_cons, Nat.add_comm rest.length,
        ← Nat.add_assoc, later, List.append_assoc]
      by_cases inside : i < stop
      · have one_less : stop - i = stop - (i + 1) + 1 := by omega
        simp [inside, one_less]
      · have none_left : stop - i = 0 ∧ stop - (i + 1) = 0 := by omega
        simp [inside, none_left]

/-- A text with its parts replaced, cut at the start of the last part. -/
theorem atOnce_eq {t : Text} {rs : List Replacement} {start stop : Nat} (bound : start ≤ t.length)
    (ordered : start ≤ stop) (before : ∀ r ∈ rs, r.start ≤ start)
    (covered : ∀ k, start ≤ k → covers rs k = decide (k < stop)) :
    atOnce t rs = walk rs 0 (t.take start) ++ (putIn rs start ++ t.drop stop) := by
  have split := walk_append rs 0 (t.take start) (t.drop start)
  have length_take : (t.take start).length = start := List.length_take_of_le bound
  have length_drop : start + (t.drop start).length = t.length := by
    rw [List.length_drop]
    omega
  have rest := walk_from before covered (Nat.le_refl start) (t.drop start)
  rw [length_drop, List.drop_drop, Nat.add_sub_of_le ordered] at rest
  rw [List.take_append_drop, Nat.zero_add, length_take] at split
  rw [atOnce, split, List.append_assoc, rest]

/-- **The part at the very back can be replaced first.** -/
theorem atOnce_splice {t : Text} {r : Replacement} {later : List Replacement}
    (descending : Descending t (r :: later)) :
    atOnce (t.splice r.start r.stop r.text) later = atOnce t (r :: later) := by
  obtain ⟨ordered, bound⟩ := descending.head
  have start_le : r.start ≤ t.length := Nat.le_trans ordered bound
  have starts : ∀ s ∈ later, s.start ≤ r.start := by
    intro s member
    have := descending.earlier s member
    omega
  have stops : ∀ s ∈ later, s.stop ≤ r.start := fun s member => (descending.earlier s member).2
  have reached : r.start ≤ (t.splice r.start r.stop r.text).length :=
    Text.le_length_splice start_le r.text
  have spliced := atOnce_eq reached (Nat.le_refl r.start) starts (by
      intro k behind
      simp [covers_behind stops behind, behind])
  have whole := atOnce_eq start_le ordered (List.forall_mem_cons.mpr ⟨Nat.le_refl _, starts⟩) (by
      intro k behind
      rw [covers_cons, covers_behind stops behind]
      simp [behind])
  have front : walk (r :: later) 0 (t.take r.start) = walk later 0 (t.take r.start) := by
    have inside : 0 + (t.take r.start).length ≤ r.start := by
      rw [Nat.zero_add]
      exact List.length_take_le r.start t
    refine walk_congr ?_ inside
    intro k before
    constructor
    · rw [putIn, if_neg (by omega), List.append_nil]
    · rw [covers_cons, decide_eq_false (by omega), Bool.false_or]
  rw [spliced, whole, front, Text.take_splice start_le (Nat.le_refl _), Text.drop_splice start_le,
    putIn, if_pos rfl, List.append_assoc]

/-! ## One after the other -/

section Batch

variable {isEnd : Char → Bool}

/-- A replacement at the back leaves the edits in front of it as they were. -/
theorem edit_splice {t : Text} {r : Replacement} (bound : r.start ≤ t.length)
    (ordinary : '\r' ∉ t) {s : Replacement} (ordered : s.start ≤ s.stop) (before : s.stop ≤ r.start) :
    s.edit isEnd (t.splice r.start r.stop r.text) = s.edit isEnd t := by
  have start : positionAt isEnd (t.splice r.start r.stop r.text) s.start =
      positionAt isEnd t s.start :=
    positionAt_congr (Text.take_splice bound (Nat.le_trans ordered before) r.text) ordinary
  have stop : positionAt isEnd (t.splice r.start r.stop r.text) s.stop =
      positionAt isEnd t s.stop :=
    positionAt_congr (Text.take_splice bound before r.text) ordinary
  rw [edit, edit, start, stop]

/-- **Edits from the back to the front, with positions in one text, replace its parts at
once**, for every class of line ends that agrees with the breaks of `cut` on what stands
before the parts. -/
theorem applyAll_edits (ends : EndClass isEnd) {t : Text} {rs : List Replacement}
    (descending : Descending t rs) (ordinary : '\r' ∉ t) (texts : ∀ r ∈ rs, '\r' ∉ r.text)
    (agree : ∀ r ∈ rs, ∀ c ∈ t.take (r.stop - 1), isBreak c = true → isEnd c = true) :
    Edit.applyAll t (rs.map (edit isEnd t)) = atOnce t rs := by
  induction rs generalizing t with
  | nil =>
      have nothing : atOnce t [] = t :=
        atOnce_eq (Nat.zero_le _) (Nat.le_refl 0) nofun fun k _ => rfl
      rw [nothing]
      rfl
  | cons r later ih =>
      obtain ⟨ordered, bound⟩ := descending.head
      have start_le : r.start ≤ t.length := Nat.le_trans ordered bound
      have first : Edit.apply t (r.edit isEnd t) = t.splice r.start r.stop r.text :=
        apply_positionAt ends ordered bound (insidePair_eq_false ordinary _)
          (insidePair_eq_false ordinary _) (agree r List.mem_cons_self) r.text
      -- the other edits mean the same in the new text, which is as good as the old one
      have same : later.map (edit isEnd t) =
          later.map (edit isEnd (t.splice r.start r.stop r.text)) := by
        refine List.map_congr_left ?_
        intro s member
        obtain ⟨ordered_s, before⟩ := descending.earlier s member
        exact (edit_splice start_le ordinary ordered_s before).symm
      have others := ih (t := t.splice r.start r.stop r.text)
        (descending.tail (Text.le_length_splice start_le r.text))
        (Text.not_mem_splice ordinary (texts r List.mem_cons_self))
        (fun s member => texts s (List.mem_cons_of_mem r member)) (by
          intro s member
          have before := (descending.earlier s member).2
          rw [Text.take_splice start_le (by omega)]
          exact agree s (List.mem_cons_of_mem r member))
      rw [← atOnce_splice descending, ← others, ← same, ← first]
      rfl

end Batch

/-- **Edits from the back to the front are made at once.**  Take parts of a text without CR
that do not overlap, from the back to the front, and texts without CR for them.  One batch of
edits, with the positions that the parts have in the text before any edit is made, leaves the
document with all parts replaced at once.  The positions of a text of fewer than 2^32 units
fit into 32 bits.  If LF ends all lines of the text, the positions that an editor counts do as
well. -/
theorem back_to_front_at_once (d : Document) (rs : List Replacement) (version : Int)
    (descending : Descending d.text rs) (ordinary : '\r' ∉ d.text)
    (texts : ∀ r ∈ rs, '\r' ∉ r.text) :
    d.change (rs.map (edit isBreak d.text)) version =
        { d with text := atOnce d.text rs, version } ∧
      (d.text.units < 0x100000000 → ∀ r ∈ rs, ∀ i, i = r.start ∨ i = r.stop →
        (positionAt isBreak d.text i).line < 0x100000000 ∧
          (positionAt isBreak d.text i).character < 0x100000000) ∧
      ((∀ c ∈ d.text, isBreak c = true → c = '\n') →
        d.change (rs.map (edit isReturn d.text)) version =
          { d with text := atOnce d.text rs, version }) := by
  refine ⟨?_, ?_, ?_⟩
  · rw [Document.change, applyAll_edits endClass_isBreak descending ordinary texts fun _ _ _ _ => id]
  · intro short r member i place
    obtain ⟨ordered, bound⟩ := descending.1 r member
    exact positionAt_lt (by omega) short
  · intro feeds
    have agree : ∀ r ∈ rs, ∀ c ∈ d.text.take (r.stop - 1), isBreak c = true → isReturn c = true := by
      intro r _ c inside breaks
      simp [isReturn, feeds c (List.mem_of_mem_take inside) breaks]
    rw [Document.change, applyAll_edits endClass_isReturn descending ordinary texts agree]

/-- A break that goes, one that comes, a character of two units that goes, and two texts at one
index. -/
theorem back_to_front_at_once_astride :
    Descending "ab\n😀cd\u2028e".toList
        [⟨6, 7, "\n\n".toList⟩, ⟨3, 4, []⟩, ⟨2, 3, " ".toList⟩, ⟨2, 2, "!".toList⟩] ∧
      Document.change ⟨default, 1, "ab\n😀cd\u2028e".toList⟩
          [⟨some ⟨⟨1, 4⟩, ⟨2, 0⟩⟩, "\n\n".toList⟩, ⟨some ⟨⟨1, 0⟩, ⟨1, 2⟩⟩, []⟩,
            ⟨some ⟨⟨0, 2⟩, ⟨1, 0⟩⟩, " ".toList⟩, ⟨some ⟨⟨0, 2⟩, ⟨0, 2⟩⟩, "!".toList⟩] 2 =
        ⟨default, 2, "ab! cd\n\ne".toList⟩ := by
  refine ⟨by decide, ?_⟩
  exact (back_to_front_at_once ⟨default, 1, "ab\n😀cd\u2028e".toList⟩
    [⟨6, 7, "\n\n".toList⟩, ⟨3, 4, []⟩, ⟨2, 3, " ".toList⟩, ⟨2, 2, "!".toList⟩] 2
    (by decide) (by decide) (by decide)).1

end Replacement

end Kickstart
