/-
# Kickstart.Proofs.Report.Mention -- where a line mentions a line number

A line of a report mentions a line number wherever `on line `, one or more decimal digits
and ` of` stand in it.  A `Mention` is a line taken apart at such a place; there may be
several in one line, and they may start inside each other.

The search looks for a mention character by character.  What it finds is the mention with
the least before it (`digits?_of_isFirst`), and it finds nothing only if there is none
(`exists_mention_of_digits?`).  Two mentions at one place are the same
(`Mention.eq_of_length_before`): a run of digits ends where the blank of ` of` begins.

The mention that was found decides, whatever comes later: its digits name a line if they are
ASCII and their value fits into 32 bits (`number32?_digits`).
-/
import Mathlib.Data.List.Induction
import Mathlib.Data.List.TakeWhile
import Mathlib.Data.Nat.Digits.Defs
import Mathlib.Order.WellFounded
import Kickstart.Proofs.Report.Reading

namespace Kickstart

set_option autoImplicit false

/-! ## Values of digits -/

namespace Text

/-- Reading from left to right gives the number whose last digit has weight one. -/
theorem decimalValue_eq_ofDigits (digits : Text) :
    decimalValue digits =
      Nat.ofDigits 10 (digits.reverse.map fun c => c.toNat - '0'.toNat) := by
  induction digits using List.reverseRecOn with
  | nil => rfl
  | append_singleton digits c ih =>
      have step : decimalValue (digits ++ [c]) =
          10 * decimalValue digits + (c.toNat - '0'.toNat) := by
        simp [decimalValue]
      rw [step, ih, List.reverse_append, List.reverse_singleton, List.singleton_append,
        List.map_cons, Nat.ofDigits_cons, Nat.add_comm]

end Text

namespace Report

open Text

/-! ## Mentions -/

/-- A line that mentions a line number, taken apart around the number. -/
structure Mention where
  before : Text
  digits : Text
  after : Text
  some_digit : digits ≠ []
  all_digits : ∀ c ∈ digits, isDigit c = true

namespace Mention

/-- The whole line. -/
def text (m : Mention) : Text :=
  m.before ++ "on line ".toList ++ m.digits ++ " of".toList ++ m.after

/-- The number that the digits make if they are ASCII digits. -/
def value (m : Mention) : Nat := Nat.ofDigits 10 (m.digits.reverse.map fun c => c.toNat - '0'.toNat)

/-- No mention in the line has less before it. -/
structure IsFirst (m : Mention) (line : Text) : Prop where
  text : m.text = line
  le : ∀ other : Mention, other.text = line → m.before.length ≤ other.before.length

variable {m other : Mention} {line : Text}

theorem text_eq (m : Mention) : m.text = m.before ++ (lead ++ m.digits ++ trail ++ m.after) := by
  change m.before ++ lead ++ m.digits ++ trail ++ m.after = _
  simp only [List.append_assoc]

/-- Behind what comes before it, a mention is found at once. -/
theorem digitsHere?_drop (m : Mention) :
    digitsHere? (m.text.drop m.before.length) = some m.digits := by
  rw [text_eq, List.drop_left]
  exact digitsHere?_match m.some_digit m.all_digits m.after

/-- A line holds one mention at a place. -/
theorem eq_of_length_before (same : m.text = other.text)
    (place : m.before.length = other.before.length) : m = other := by
  have digits : m.digits = other.digits := by
    have here := m.digitsHere?_drop
    rw [same, place, other.digitsHere?_drop] at here
    exact (Option.some.inj here).symm
  rw [text_eq, text_eq, digits] at same
  obtain ⟨before, rest⟩ := List.append_inj same place
  have after : m.after = other.after := List.append_cancel_left rest
  cases m
  cases other
  simp_all

theorem IsFirst.unique (first : m.IsFirst line) (first' : other.IsFirst line) : other = m := by
  refine eq_of_length_before (first'.text.trans first.text.symm) (Nat.le_antisymm ?_ ?_)
  · exact first'.le m first.text
  · exact first.le other first'.text

/-- Of the mentions in a line one is the first. -/
theorem exists_isFirst (mentions : m.text = line) : ∃ first : Mention, first.IsFirst line := by
  obtain ⟨first, text, least⟩ := (measure fun other : Mention => other.before.length).wf.has_min
    {other | other.text = line} ⟨m, mentions⟩
  exact ⟨first, text, fun other whole => Nat.le_of_not_lt (least other whole)⟩

/-- A mention is the first if the search finds nothing at the places before it. -/
theorem isFirst_of_nothing_before (mentions : m.text = line)
    (nothing : ∀ k < m.before.length, digitsHere? (line.drop k) = none) : m.IsFirst line := by
  refine ⟨mentions, fun other whole => Nat.le_of_not_lt fun earlier => ?_⟩
  have found := other.digitsHere?_drop
  rw [whole, nothing _ earlier] at found
  cases found

end Mention

/-! ## The search -/

/-- What is found at the very start is a mention with nothing before it. -/
theorem exists_mention_of_digitsHere? {t digits : Text} (here : digitsHere? t = some digits) :
    ∃ m : Mention, m.text = t ∧ m.before = [] := by
  unfold digitsHere? at here
  split at here
  · rename_i begins
    simp only [List.span_eq_takeWhile_dropWhile] at here
    split at here
    · rename_i found
      obtain ⟨some_digit, ends⟩ := found
      obtain ⟨rest, rfl⟩ := List.isPrefixOf_iff_prefix.mp begins
      rw [List.drop_left] at some_digit ends
      obtain ⟨after, left⟩ := List.isPrefixOf_iff_prefix.mp ends
      refine ⟨⟨[], rest.takeWhile isDigit, after, some_digit, fun c => List.mem_takeWhile_imp⟩, ?_, rfl⟩
      rw [Mention.text_eq, List.nil_append, List.append_assoc, List.append_assoc, left,
        List.takeWhile_append_dropWhile]
    · cases here
  · cases here

/-- What is found is a mention. -/
theorem exists_mention_of_digits? {t digits : Text} (found : digits? t = some digits) :
    ∃ m : Mention, m.text = t := by
  induction t with
  | nil => cases found
  | cons c rest ih =>
      rcases Option.or_eq_some_iff.mp found with here | ⟨-, later⟩
      · obtain ⟨m, whole, -⟩ := exists_mention_of_digitsHere? here
        exact ⟨m, whole⟩
      · obtain ⟨m, rfl⟩ := ih later
        exact ⟨{ m with before := c :: m.before }, rfl⟩

/-- **The search finds the first mention**, however many partial ones it meets before. -/
theorem digits?_of_isFirst {m : Mention} {t : Text} (first : m.IsFirst t) :
    digits? t = some m.digits := by
  obtain ⟨before, digits, after, some_digit, all_digits⟩ := m
  induction before generalizing t with
  | nil =>
      rw [← first.text]
      exact digits?_of_here (digitsHere?_match some_digit all_digits after)
  | cons c before ih =>
      obtain ⟨rfl, le⟩ := first
      let rest : Mention := ⟨before, digits, after, some_digit, all_digits⟩
      change digits? (c :: rest.text) = some digits
      -- a mention that starts with the line would come before the first one
      have nothing : digitsHere? (c :: rest.text) = none := by
        rw [Option.eq_none_iff_forall_ne_some]
        intro found here
        obtain ⟨m, whole, empty⟩ := exists_mention_of_digitsHere? here
        have least := le m whole
        rw [empty] at least
        cases least
      rw [digits?, nothing, Option.none_or]
      refine ih ⟨rfl, fun other whole => ?_⟩
      have least := le { other with before := c :: other.before } (congrArg (c :: ·) whole)
      exact Nat.le_of_succ_le_succ least

/-- The digits name a line if they are ASCII digits and the number fits. -/
theorem number32?_digits (m : Mention) :
    number32? m.digits =
      if m.digits.all Char.isDigit = true ∧ m.value < 2 ^ 32 then some m.value else none := by
  have ascii : m.digits.all isAsciiDigit = m.digits.all Char.isDigit := by
    rw [funext isAsciiDigit_eq]
  unfold number32?
  simp only [decimalValue_eq_ofDigits, ascii, m.some_digit, ne_eq, not_false_eq_true, true_and]
  rfl

/-- **The first mention decides.**  Of every line of a report:

1. a line that mentions no line number reports none;
2. if it mentions any, one mention is the first, and no other is;
3. the line reports the number of the first mention if its digits are ASCII digits and the
   number is below 2^32, and else none, whatever mentions come later;
4. a number below 2^32, written in decimal, is reported if no mention starts before it. -/
theorem first_mention_decides (line : Text) :
    ((∀ m : Mention, m.text ≠ line) → reportedLine? line = none) ∧
    (∀ m : Mention, m.text = line → ∃! first : Mention, first.IsFirst line) ∧
    (∀ m : Mention, m.IsFirst line → reportedLine? line =
      if m.digits.all Char.isDigit = true ∧ m.value < 2 ^ 32 then some m.value else none) ∧
    ∀ n < 2 ^ 32, ∀ before after : Text,
      before ++ "on line ".toList ++ Nat.toDigits 10 n ++ " of".toList ++ after = line →
      (∀ m : Mention, m.text = line → before.length ≤ m.before.length) →
      reportedLine? line = some n := by
  refine ⟨fun unmentioned => ?_, fun m mentions => ?_, fun m first => ?_, ?_⟩
  · have nothing : digits? line = none := by
      rw [Option.eq_none_iff_forall_ne_some]
      intro digits found
      obtain ⟨m, whole⟩ := exists_mention_of_digits? found
      exact unmentioned m whole
    rw [reportedLine?, nothing, Option.bind_none]
  · obtain ⟨first, isFirst⟩ := Mention.exists_isFirst mentions
    exact ⟨first, isFirst, fun other isFirst' => isFirst.unique isFirst'⟩
  · rw [reportedLine?, digits?_of_isFirst first, Option.bind_some, number32?_digits]
  · intro n fits before after whole earliest
    have written : ∀ c ∈ ofNat n, isDigit c = true := fun c member =>
      isDigit_of_isAsciiDigit (List.all_eq_true.mp (all_isAsciiDigit_ofNat n) c member)
    let m : Mention := ⟨before, ofNat n, after, ofNat_ne_nil n, written⟩
    have first : m.IsFirst line := ⟨whole, earliest⟩
    rw [reportedLine?, digits?_of_isFirst first, Option.bind_some]
    exact number32?_ofNat fits

/-- A beginning that comes to nothing is passed over and zeros in front do not count; digits
that are not ASCII hide the mention behind them. -/
theorem first_mention_decides_nested :
    let nested : Text := "on line on line 0042 of, on line 7 of".toList
    let hidden : Text := "on line ٤٢ of, on line 7 of".toList
    (∃ m : Mention, m.IsFirst nested ∧ m.digits = "0042".toList ∧ reportedLine? nested = some 42) ∧
      ∃ m : Mention, m.IsFirst hidden ∧ m.digits = "٤٢".toList ∧ reportedLine? hidden = none := by
  intro nested hidden
  let zeros : Mention := ⟨"on line ".toList, "0042".toList, ", on line 7 of".toList, by decide,
    List.all_eq_true.mp (by decide)⟩
  let arabic : Mention := ⟨[], "٤٢".toList, ", on line 7 of".toList, by decide,
    List.all_eq_true.mp (by decide)⟩
  have zeros_first : zeros.IsFirst nested :=
    Mention.isFirst_of_nothing_before (by decide) (by decide)
  have arabic_first : arabic.IsFirst hidden :=
    Mention.isFirst_of_nothing_before (by decide) (by decide)
  refine ⟨⟨zeros, zeros_first, rfl, ?_⟩, ⟨arabic, arabic_first, rfl, ?_⟩⟩
  · exact ((first_mention_decides nested).2.2.1 zeros zeros_first).trans (by decide)
  · exact ((first_mention_decides hidden).2.2.1 arabic arabic_first).trans (by decide)

end Report

end Kickstart
