/-
# Kickstart.Proofs.Report.Reading -- the lines and the numbers of a report

How a report that was written line by line reads back.

* `number32?_ofNat`: a number below 2^32 written in decimal is read as that number.
* `spoken_ended`, `spoken_of_append_newline`: lines that hold no LF and do not end with
  CR come back as they are, without the empty ones, whether or not an LF follows the
  last.
* `digitsHere?_match`, `digits?_skip`: the digits between `on line ` and ` of` are found,
  and the search for them passes over what does not begin like that.
-/
import Mathlib.Data.List.TakeDrop
import Kickstart.Report.Parser

namespace Kickstart

set_option autoImplicit false

/-! ## Numbers -/

namespace Text

theorem isAsciiDigit_eq (c : Char) : isAsciiDigit c = c.isDigit := by
  rw [Bool.eq_iff_iff]
  simp [Char.isDigit, isAsciiDigit, Char.le_def]

theorem isDigit_of_isAsciiDigit {c : Char} (digit : isAsciiDigit c = true) : isDigit c = true := by
  have range : 0x30 ≤ c.toNat ∧ c.toNat < 0x30 + 10 := by
    simp only [isAsciiDigit, Bool.and_eq_true, decide_eq_true_eq, Char.le_def, UInt32.le_iff_toNat_le]
      at digit
    exact ⟨digit.1, Nat.lt_succ_of_le digit.2⟩
  simp [isDigit, digitZeros, range]

theorem all_isAsciiDigit_ofNat (n : Nat) : (ofNat n).all isAsciiDigit = true := by
  rw [List.all_eq_true]
  intro c member
  rw [isAsciiDigit_eq]
  exact Nat.isDigit_of_mem_toDigits (by decide) (by decide) member

theorem ofNat_ne_nil (n : Nat) : ofNat n ≠ [] := Nat.toDigits_ne_nil

theorem decimalValue_ofNat (n : Nat) : decimalValue (ofNat n) = n :=
  Nat.ofDigitChars_ten_toDigits

theorem number32?_ofNat {n : Nat} (fits : n < 0x100000000) : number32? (ofNat n) = some n := by
  unfold number32?
  rw [decimalValue_ofNat, if_pos ⟨ofNat_ne_nil n, all_isAsciiDigit_ofNat n, fits⟩]

/-! ## Trimming -/

/-- A text with no white space at either end. -/
def Tight (t : Text) : Prop :=
  (∀ c, t.head? = some c → isBlank c = false) ∧ ∀ c, t.getLast? = some c → isBlank c = false

theorem tight_iff_all {t : Text} :
    (t.head?.all (!isBlank ·) && t.getLast?.all (!isBlank ·)) = true ↔ Tight t := by
  simp only [Tight, Bool.and_eq_true, Option.all_eq_true, Bool.not_eq_true']

instance (t : Text) : Decidable (Tight t) := decidable_of_decidable_of_iff tight_iff_all

theorem dropWhile_isBlank {t : Text} (visible : ∀ c, t.head? = some c → isBlank c = false) :
    t.dropWhile isBlank = t := by
  cases t with
  | nil => rfl
  | cons c rest => simp [visible c rfl]

theorem trim_of_tight {t : Text} (tight : Tight t) : t.trim = t := by
  unfold trim trimStart trimEnd
  rw [dropWhile_isBlank tight.1, dropWhile_isBlank (by simpa using tight.2), List.reverse_reverse]

end Text

namespace Report

/-! ## Lines -/

/-- Lines as a text, an LF behind each of them. -/
def ended (ls : List Text) : Text := ls.flatMap (· ++ ['\n'])

@[simp] theorem ended_nil : ended [] = [] := rfl

theorem ended_cons (l : Text) (ls : List Text) : ended (l :: ls) = l ++ '\n' :: ended ls := by
  simp [ended]

theorem ended_append (ls more : List Text) : ended (ls ++ more) = ended ls ++ ended more :=
  List.flatMap_append

theorem pieces_of_not_mem {t : Text} (plain : '\n' ∉ t) : pieces t = ([], t) := by
  induction t with
  | nil => rfl
  | cons c rest ih =>
      obtain ⟨different, later⟩ := List.ne_and_not_mem_of_not_mem_cons plain
      simp [pieces, ih later, different.symm]

theorem pieces_append_newline {line : Text} (plain : '\n' ∉ line) (rest : Text) :
    pieces (line ++ '\n' :: rest) = (line :: (pieces rest).1, (pieces rest).2) := by
  induction line with
  | nil => simp [pieces]
  | cons c line ih =>
      obtain ⟨different, later⟩ := List.ne_and_not_mem_of_not_mem_cons plain
      simp [pieces, ih later, different.symm]

/-- Lines without LF and a tail without LF come apart where they were put together. -/
theorem pieces_ended_append {ls : List Text} {tail : Text} (plain : ∀ l ∈ ls, '\n' ∉ l)
    (plain_tail : '\n' ∉ tail) : pieces (ended ls ++ tail) = (ls, tail) := by
  induction ls with
  | nil => exact pieces_of_not_mem plain_tail
  | cons l ls ih =>
      have rest := ih fun l' member => plain l' (List.mem_cons_of_mem l member)
      rw [ended_cons, List.append_assoc, List.cons_append,
        pieces_append_newline (plain l List.mem_cons_self), rest]

/-- A line that reads back as it was written: no LF in it, and no CR at its end. -/
def Clean (l : Text) : Prop := '\n' ∉ l ∧ l.getLast? ≠ some '\r'

theorem dropReturn_of_clean {l : Text} (clean : Clean l) : dropReturn l = l := if_neg clean.2

theorem map_dropReturn_of_clean {ls : List Text} (clean : ∀ l ∈ ls, Clean l) :
    ls.map dropReturn = ls :=
  (List.map_congr_left fun l member => dropReturn_of_clean (clean l member)).trans (List.map_id ls)

theorem spoken_ended {ls : List Text} (clean : ∀ l ∈ ls, Clean l) :
    spoken (ended ls) = ls.filter fun l => !l.isEmpty := by
  have apart : pieces (ended ls) = (ls, []) := by
    simpa using pieces_ended_append (fun l member => (clean l member).1) (List.not_mem_nil (a := '\n'))
  simp [spoken, lines, apart, map_dropReturn_of_clean clean]

/-- The LF behind the last line makes no difference. -/
theorem spoken_of_append_newline {t : Text} {ls : List Text} (clean : ∀ l ∈ ls, Clean l)
    (unended : t ++ ['\n'] = ended ls) : spoken t = ls.filter fun l => !l.isEmpty := by
  rcases List.eq_nil_or_concat ls with rfl | ⟨before, last, rfl⟩
  · simp at unended
  · simp only [List.concat_eq_append] at clean unended ⊢
    have clean_before : ∀ l ∈ before, Clean l :=
      fun l member => clean l (List.mem_append_left [last] member)
    have clean_last : Clean last := clean last (by simp)
    have shape : t = ended before ++ last := by
      rw [ended_append, ended_cons, ended_nil, ← List.singleton_append, ← List.append_assoc,
        ← List.append_assoc, List.append_nil] at unended
      exact List.append_cancel_right unended
    have apart := pieces_ended_append (fun l member => (clean_before l member).1) clean_last.1
    simp only [spoken, lines, shape, apart, map_dropReturn_of_clean clean_before,
      List.filter_append]
    cases last with
    | nil => simp
    | cons c rest => simp

/-! ## Location lines -/

open Text

theorem digitsHere?_of_different {t : Text} (different : lead.isPrefixOf t = false) :
    digitsHere? t = none := by
  rw [digitsHere?, different, if_neg Bool.false_ne_true]

/-- What stands between `on line ` and ` of` is found if it is digits. -/
theorem digitsHere?_match {digits : Text} (some_digit : digits ≠ [])
    (all_digits : ∀ c ∈ digits, isDigit c = true) (post : Text) :
    digitsHere? (lead ++ digits ++ trail ++ post) = some digits := by
  have begins : lead.isPrefixOf (lead ++ digits ++ trail ++ post) = true := by simp
  have behind : (lead ++ digits ++ trail ++ post).drop lead.length = digits ++ (trail ++ post) := by
    rw [List.append_assoc, List.append_assoc, List.drop_left]
  have stop : isDigit ' ' = false := by decide
  have apart : (digits ++ (trail ++ post)).span isDigit = (digits, trail ++ post) := by
    rw [List.span_eq_takeWhile_dropWhile, List.takeWhile_append_of_pos all_digits,
      List.dropWhile_append_of_pos all_digits]
    simp [trail, stop]
  simp only [digitsHere?, begins, if_true, behind, apart]
  simp [some_digit]

theorem digits?_of_here {t digits : Text} (here : digitsHere? t = some digits) :
    digits? t = some digits := by
  cases t with
  | nil =>
      rw [digitsHere?_of_different (by decide)] at here
      cases here
  | cons c rest => rw [digits?, here, Option.some_or]

/-- The search passes over a character at which `on line ` does not even begin. -/
theorem digits?_skip {c : Char} {rest : Text} (elsewhere : ¬ ['o', 'n'] <+: c :: rest) :
    digits? (c :: rest) = digits? rest := by
  have different : lead.isPrefixOf (c :: rest) = false := by
    rw [Bool.eq_false_iff]
    intro begins
    have whole : ['o', 'n'] <+: lead := by decide
    exact elsewhere (whole.trans (List.isPrefixOf_iff_prefix.mp begins))
  rw [digits?, digitsHere?_of_different different, Option.none_or]

end Report

end Kickstart
