/-
# Kickstart.Proofs.Report.RoundTrip -- reading back what the validator writes

The validator writes a problem as a line that says where it is, and a line that says
what it is, with any number of empty lines between and behind them (`Entry.lines`).
`diagnostics_report` says that reading such a report gives the problems back, one
diagnostic for each and in order.  A message is anything that fits on a line and is
not padded; that it may itself look like a location line does no harm, because the
line behind a location line is never read as a location.
-/
import Kickstart.Proofs.Report.Reading

namespace Kickstart.Report

set_option autoImplicit false

open Text

/-! ## The format -/

/-- The line that says where a problem is, counted from one. -/
def place (line : Nat) : Text :=
  "The following problem occurred on line ".toList ++ ofNat line ++ " of the kickstart file:".toList

/-- One problem in a report. -/
structure Entry where
  line : Nat
  message : Text
  /-- Empty lines between place and message. -/
  gap : Nat
  /-- Empty lines behind the message. -/
  space : Nat

namespace Entry

/-- The lines that a problem takes up. -/
def lines (e : Entry) : List Text :=
  place e.line :: (List.replicate e.gap [] ++ e.message :: List.replicate e.space [])

/-- A line number of 32 bits that counts from one, and a message of one line that is not
empty and not padded. -/
structure WellFormed (e : Entry) : Prop where
  line_pos : 1 ≤ e.line
  line_lt : e.line < 0x100000000
  message_ne : e.message ≠ []
  message_line : '\n' ∉ e.message
  message_tight : Tight e.message

end Entry

/-- A report of problems, an LF behind each of its lines. -/
def written (entries : List Entry) : Text := ended (entries.flatMap Entry.lines)

/-! ## Reading it back -/

/-- What stands before `on line ` in the line of a place. -/
def opening : Text := "The following problem occurred ".toList

/-- What stands behind ` of` in the line of a place. -/
def closing : Text := " the kickstart file:".toList

theorem digits?_opening (rest : Text) : digits? (opening ++ rest) = digits? rest := by
  have spelled : opening = ['T', 'h', 'e', ' ', 'f', 'o', 'l', 'l', 'o', 'w', 'i', 'n', 'g', ' ',
      'p', 'r', 'o', 'b', 'l', 'e', 'm', ' ', 'o', 'c', 'c', 'u', 'r', 'r', 'e', 'd', ' '] := by rfl
  rw [spelled]
  simp only [List.cons_append, List.nil_append]
  repeat rw [digits?_skip (by simp)]

theorem place_eq (n : Nat) : place n = opening ++ (lead ++ ofNat n ++ trail ++ closing) := by
  have before : "The following problem occurred on line ".toList = opening ++ lead := by rfl
  have behind : " of the kickstart file:".toList = trail ++ closing := by rfl
  calc place n = (opening ++ lead) ++ ofNat n ++ (trail ++ closing) :=
        congrArg₂ (fun a b => a ++ ofNat n ++ b) before behind
    _ = opening ++ (lead ++ ofNat n ++ trail ++ closing) := by simp only [List.append_assoc]

theorem reportedLine?_place {n : Nat} (fits : n < 0x100000000) :
    reportedLine? (place n) = some n := by
  have digits : ∀ c ∈ ofNat n, isDigit c = true := fun c member =>
    isDigit_of_isAsciiDigit (List.all_eq_true.mp (all_isAsciiDigit_ofNat n) c member)
  have found : digits? (place n) = some (ofNat n) := by
    rw [place_eq, digits?_opening]
    exact digits?_of_here (digitsHere?_match (ofNat_ne_nil n) digits _)
  rw [reportedLine?, found, Option.bind_some, number32?_ofNat fits]

theorem place_ne_nil (n : Nat) : place n ≠ [] := by
  rw [place_eq]
  exact List.append_ne_nil_of_left_ne_nil (by decide) _

theorem clean_place (n : Nat) : Clean (place n) := by
  constructor
  · have outside : '\n' ∉ ofNat n := fun member =>
      absurd (List.all_eq_true.mp (all_isAsciiDigit_ofNat n) '\n' member) (by decide)
    have fixed : '\n' ∉ opening ∧ '\n' ∉ lead ∧ '\n' ∉ trail ∧ '\n' ∉ closing := by decide
    rw [place_eq]
    simp only [List.mem_append, not_or]
    exact ⟨fixed.1, ⟨⟨fixed.2.1, outside⟩, fixed.2.2.1⟩, fixed.2.2.2⟩
  · have last : closing.getLast? = some ':' := by decide
    rw [place_eq, List.getLast?_append, List.getLast?_append, last, Option.some_or, Option.some_or]
    decide

namespace Entry

theorem WellFormed.clean_message {e : Entry} (wellFormed : e.WellFormed) : Clean e.message := by
  refine ⟨wellFormed.message_line, fun last => ?_⟩
  exact absurd (wellFormed.message_tight.2 '\r' last) (by decide)

theorem WellFormed.clean_lines {e : Entry} (wellFormed : e.WellFormed) : ∀ l ∈ e.lines, Clean l := by
  have clean_nil : Clean [] := ⟨List.not_mem_nil, by simp⟩
  intro l member
  simp only [lines, List.mem_cons, List.mem_append, List.mem_replicate] at member
  rcases member with rfl | ⟨-, rfl⟩ | rfl | ⟨-, rfl⟩
  · exact clean_place e.line
  · exact clean_nil
  · exact wellFormed.clean_message
  · exact clean_nil

/-- Without the empty lines a problem is its place and its message. -/
theorem WellFormed.filter_lines {e : Entry} (wellFormed : e.WellFormed) :
    e.lines.filter (fun l => !l.isEmpty) = [place e.line, e.message] := by
  simp [lines, place_ne_nil, wellFormed.message_ne]

end Entry

/-- Places pair with the messages behind them, whatever these look like. -/
theorem pairs_entries {entries : List Entry} (fits : ∀ e ∈ entries, e.line < 0x100000000) :
    pairs (entries.flatMap fun e => [place e.line, e.message]) =
      entries.map fun e => (e.line, e.message) := by
  induction entries with
  | nil => rfl
  | cons e entries ih =>
      have later := ih fun e' member => fits e' (List.mem_cons_of_mem e member)
      simp only [List.flatMap_cons, List.cons_append, List.nil_append, pairs, List.map_cons,
        reportedLine?_place (fits e List.mem_cons_self), later]

theorem spoken_written {entries : List Entry} (wellFormed : ∀ e ∈ entries, e.WellFormed)
    {report : Text} (reads : report = written entries ∨ report ++ ['\n'] = written entries) :
    spoken report = entries.flatMap fun e => [place e.line, e.message] := by
  have clean : ∀ l ∈ entries.flatMap Entry.lines, Clean l := by
    intro l member
    obtain ⟨e, member_e, member_l⟩ := List.mem_flatMap.mp member
    exact (wellFormed e member_e).clean_lines l member_l
  have said : spoken report = (entries.flatMap Entry.lines).filter fun l => !l.isEmpty := by
    rcases reads with rfl | unended
    · exact spoken_ended clean
    · exact spoken_of_append_newline clean unended
  rw [said, List.filter_flatMap, List.flatMap_def, List.flatMap_def,
    List.map_congr_left fun e member => (wellFormed e member).filter_lines]

/-- **Reading a report gives its problems back.**  With or without an LF behind the last
line, there is one diagnostic for each problem and no other, in order: it covers the whole
reported line, counted from zero, and holds the message as it was written. -/
theorem diagnostics_report (entries : List Entry) (wellFormed : ∀ e ∈ entries, e.WellFormed)
    (report : Text) (reads : report = written entries ∨ report ++ ['\n'] = written entries)
    (related : Option Uri) :
    diagnostics report related = entries.map fun e =>
      { range := .wholeLine (e.line - 1)
        severity := .warning
        source := "ksvalidator"
        message := e.message
        related := related.map fun u =>
          [⟨u, .wholeLine (e.line - 1), "ksvalidator considers this line invalid"⟩] } := by
  rw [diagnostics, spoken_written wellFormed reads,
    pairs_entries fun e member => (wellFormed e member).line_lt, List.map_map]
  refine List.map_congr_left fun e member => ?_
  simp only [Function.comp_apply, diagnostic, trim_of_tight (wellFormed e member).message_tight]
  rfl

/-- A message that looks like a place, on the last line that 32 bits can name. -/
theorem diagnostics_report_lookalike :
    Entry.WellFormed ⟨4294967295, "on line 7 of".toList, 1, 0⟩ ∧
      diagnostics
          ("The following problem occurred on line 4294967295 of the kickstart file:\n\n".toList ++
            "on line 7 of".toList) (some default) =
        [⟨.wholeLine 4294967294, .warning, "ksvalidator", "on line 7 of".toList,
          some [⟨default, .wholeLine 4294967294, "ksvalidator considers this line invalid"⟩]⟩] := by
  have wellFormed : Entry.WellFormed ⟨4294967295, "on line 7 of".toList, 1, 0⟩ :=
    ⟨by decide, by decide, by decide, by decide, by decide⟩
  refine ⟨wellFormed, ?_⟩
  exact diagnostics_report [⟨4294967295, "on line 7 of".toList, 1, 0⟩]
    (fun e member => List.mem_singleton.mp member ▸ wellFormed) _ (Or.inr (by decide)) (some default)

end Kickstart.Report
