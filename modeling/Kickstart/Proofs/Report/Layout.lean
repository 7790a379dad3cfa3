/-
# Kickstart.Proofs.Report.Layout -- how a report is laid out

Two things about the layout of a report should not matter: how its lines end, and where there
are blank lines.

How they end does not: a report without CR reads the same when CR LF stands for any of its LF
(`line_ends_do_not_matter`).

Blank lines do matter, and that is a defect: they are told by reading as nothing, before anything
is trimmed, so that a line of white space is kept.  Where no message is awaited it is passed over,
since no number stands in it (`reportedLine?_of_allBlank`).  Where one is, it is taken for the
message, and nothing is left of it once it is trimmed (`white_line_taken_for_message`).  So blank
lines may be put in anywhere but in front of an awaited message, and there they change what is
reported unless they read as nothing (`blank_lines_passed_over`).

Whether a message is awaited is followed from line to line: `pairsFrom` reads on behind a
location line that has no message yet, and `waiting` says which is the last of these.
-/
import Kickstart.Proofs.Report.Noise
import Kickstart.Proofs.Text.Blank

namespace Kickstart.Report

set_option autoImplicit false

open Text

/-! ## Line ends -/

/-- The second text is the first one with CR LF for some of its LF. -/
inductive Respelled : Text → Text → Prop where
  | nil : Respelled [] []
  | keep (c : Char) {s t : Text} (rest : Respelled s t) : Respelled (c :: s) (c :: t)
  | crlf {s t : Text} (rest : Respelled s t) : Respelled ('\n' :: s) ('\r' :: '\n' :: t)

theorem dropReturn_cons {c : Char} (other : c ≠ '\r') (line : Text) :
    dropReturn (c :: line) = c :: dropReturn line := by
  cases line with
  | nil => simp [dropReturn, other]
  | cons d line => by_cases last : (d :: line).getLast? = some '\r' <;> simp [dropReturn, last]

/-- The lines come out as they were, with at most a CR more at the end of each. -/
theorem Respelled.pieces_eq {s t : Text} (respelled : Respelled s t) (plain : '\r' ∉ s) :
    (pieces t).1.map dropReturn = (pieces s).1 ∧ (pieces t).2 = (pieces s).2 := by
  induction respelled with
  | nil => exact ⟨rfl, rfl⟩
  | @keep c s t rest ih =>
      obtain ⟨other, plain⟩ := List.ne_and_not_mem_of_not_mem_cons plain
      obtain ⟨lines, tail⟩ := ih plain
      by_cases ends : c = '\n'
      · simp [pieces, ends, dropReturn, lines, tail]
      · simp only [pieces, if_neg ends, ← lines, tail]
        cases (pieces t).1 with
        | nil => exact ⟨rfl, rfl⟩
        | cons line more => simp [dropReturn_cons other.symm]
  | @crlf s t rest ih =>
      obtain ⟨lines, tail⟩ := ih (List.not_mem_of_not_mem_cons plain)
      simp [pieces, dropReturn, lines, tail]

theorem respelled_refl (s : Text) : Respelled s s := by
  induction s with
  | nil => exact .nil
  | cons c s ih => exact .keep c ih

theorem Respelled.lines_eq {s t : Text} (respelled : Respelled s t) (plain : '\r' ∉ s) :
    lines t = lines s := by
  obtain ⟨ended_t, tail_t⟩ := respelled.pieces_eq plain
  obtain ⟨ended_s, -⟩ := (respelled_refl s).pieces_eq plain
  simp only [lines, ended_t, ended_s, tail_t]

/-- **Line ends do not matter.**  A report without CR reads the same when any of its LF, some of
them or all, are made CR LF. -/
theorem line_ends_do_not_matter {report respelled : Text} (plain : '\r' ∉ report)
    (same : Respelled report respelled) (related : Option Uri) :
    diagnostics respelled related = diagnostics report related := by
  rw [diagnostics, diagnostics, spoken, spoken, same.lines_eq plain]

/-- CR LF behind the empty line and behind the message, LF behind the location. -/
theorem line_ends_do_not_matter_mixed :
    '\r' ∉ "on line 2 of\n\n bad\n".toList ∧
      diagnostics "on line 2 of\n\r\n bad\r\n".toList none =
        diagnostics "on line 2 of\n\n bad\n".toList none ∧
      diagnostics "on line 2 of\n\n bad\n".toList none = [.ofLine none 1 "bad".toList] := by
  have plain : '\r' ∉ "on line 2 of\n\n bad\n".toList := by decide
  have mixed : Respelled "on line 2 of\n\n bad\n".toList "on line 2 of\n\r\n bad\r\n".toList := by
    repeat constructor
  exact ⟨plain, line_ends_do_not_matter plain mixed none, by decide⟩

/-! ## Reading on from a location line -/

/-- The pairs that follow, behind a location line without a message or elsewhere. -/
def pairsFrom : Option Nat → List Text → List (Nat × Text)
  | _, [] => []
  | none, line :: rest => pairsFrom (reportedLine? line) rest
  | some n, message :: rest => (n, message) :: pairsFrom none rest

/-- What the last location line reports, if it has no message. -/
def waiting : Option Nat → List Text → Option Nat
  | open?, [] => open?
  | none, line :: rest => waiting (reportedLine? line) rest
  | some _, _ :: rest => waiting none rest

theorem pairs_eq_pairsFrom (ls : List Text) : pairs ls = pairsFrom none ls := by
  induction ls using pairs.induct with
  | case1 place message rest n reported ih =>
      rw [pairs_cons_of_place reported, pairsFrom, reported, pairsFrom, ih]
  | case2 place message rest silent ih =>
      rw [pairs_cons_of_silent silent, pairsFrom, silent, ih]
  | case3 ls short =>
      have fewer := length_lt_two short
      rw [pairs_of_fewer fewer]
      cases ls with
      | nil => rfl
      | cons line rest =>
          rw [List.length_cons] at fewer
          have last : rest = [] := List.length_eq_zero_iff.mp (by omega)
          rw [last, pairsFrom, pairsFrom]

theorem endsOpen_eq_waiting (ls : List Text) : endsOpen ls = (waiting none ls).isSome := by
  fun_induction endsOpen ls with
  | case1 => rfl
  | case2 place => cases found : reportedLine? place <;> simp [waiting, found]
  | case3 place message rest n reported ih => rw [waiting, reported, waiting, ih]
  | case4 place message rest silent ih => rw [waiting, silent, ih]

/-- White space reports no line. -/
theorem reportedLine?_of_allBlank {line : Text} (blank : line.AllBlank) :
    reportedLine? line = none := by
  have nothing : digits? line = none := by
    induction line with
    | nil => rfl
    | cons c line ih =>
        have elsewhere : ¬ ['o', 'n'] <+: c :: line := by
          rintro ⟨more, same⟩
          have first : 'o' = c := (List.cons.inj same).1
          exact absurd (blank c List.mem_cons_self) (by rw [← first]; decide)
        rw [digits?_skip elsewhere]
        exact ih fun d member => blank d (List.mem_cons_of_mem c member)
  rw [reportedLine?, nothing, Option.bind_none]

/-! ## Lines put in -/

/-- The lines with others put in, in front of each and behind the last. -/
def padded (gap : Nat → List Text) : List Text → List Text
  | [] => gap 0
  | l :: ls => gap 0 ++ l :: padded (fun i => gap (i + 1)) ls

/-- A line that is white space and nothing else, or empty. -/
structure BlankLine (l : Text) : Prop where
  blank : l.AllBlank
  plain : '\n' ∉ l

/-- In front of the line of an index, a message is awaited: a location line has none yet, and
what is said next is no white space, if anything is. -/
def Awaits (ls : List Text) (tail : Text) (i : Nat) : Prop :=
  endsOpen (spoken (ended (ls.take i))) = true ∧
    ∀ next, (spoken (ended (ls.drop i) ++ tail)).head? = some next → ¬ next.AllBlank

/-- The same, of lines as they are heard, and behind whatever was heard before. -/
def AwaitsFrom (open? : Option Nat) (ls rest : List Text) (i : Nat) : Prop :=
  (waiting open? (heard (ls.take i))).isSome = true ∧
    ∀ next, (heard (ls.drop i) ++ rest).head? = some next → ¬ next.AllBlank

theorem heard_nil : heard [] = [] := rfl

theorem heard_cons_of_silent {l : Text} (silent : dropReturn l = []) (ls : List Text) :
    heard (l :: ls) = heard ls := by
  simp [heard, silent]

theorem heard_cons_of_audible {l : Text} (audible : dropReturn l ≠ []) (ls : List Text) :
    heard (l :: ls) = dropReturn l :: heard ls := by
  simp [heard, audible]

theorem heard_eq_nil_iff {ls : List Text} : heard ls = [] ↔ ∀ l ∈ ls, dropReturn l = [] := by
  simp [heard]

theorem allBlank_of_mem_heard {ls : List Text} (blank : ∀ l ∈ ls, l.AllBlank) :
    ∀ l ∈ heard ls, l.AllBlank := by
  intro l member
  obtain ⟨line, inside, rfl⟩ := List.mem_map.mp (List.mem_filter.mp member).1
  rw [← trim_eq_nil_iff, ← (sameSaid_dropReturn line).message, trim_eq_nil_iff]
  exact blank line inside

/-- Lines put in on both sides of a line that reads as nothing come to stand together. -/
def merged (gap : Nat → List Text) : Nat → List Text
  | 0 => gap 0 ++ gap 1
  | i + 1 => gap (i + 2)

theorem heard_padded_of_silent {l : Text} (silent : dropReturn l = []) (gap : Nat → List Text)
    (ls : List Text) : heard (padded gap (l :: ls)) = heard (padded (merged gap) ls) := by
  rw [padded, heard_append, heard_cons_of_silent silent]
  cases ls <;> simp [padded, merged, heard_append]

theorem allBlank_merged {gap : Nat → List Text} (blank : ∀ i, ∀ b ∈ gap i, b.AllBlank) :
    ∀ i, ∀ b ∈ merged gap i, b.AllBlank := by
  intro i b member
  cases i with
  | zero =>
      rcases List.mem_append.mp member with inside | inside
      · exact blank 0 b inside
      · exact blank 1 b inside
  | succ i => exact blank (i + 2) b member

section Reading

variable {related : Option Uri} {open? : Option Nat} {ls rest bs : List Text} {l : Text}

theorem awaitsFrom_none_succ (audible : dropReturn l ≠ []) (i : Nat) :
    AwaitsFrom none (l :: ls) rest (i + 1) ↔
      AwaitsFrom (reportedLine? (dropReturn l)) ls rest i := by
  simp only [AwaitsFrom, List.take_succ_cons, List.drop_succ_cons, heard_cons_of_audible audible,
    waiting]

theorem awaitsFrom_some_succ (audible : dropReturn l ≠ []) (n i : Nat) :
    AwaitsFrom (some n) (l :: ls) rest (i + 1) ↔ AwaitsFrom none ls rest i := by
  simp only [AwaitsFrom, List.take_succ_cons, List.drop_succ_cons, heard_cons_of_audible audible,
    waiting]

theorem not_awaitsFrom_none_zero : ¬ AwaitsFrom none ls rest 0 := by
  rintro ⟨waits, -⟩
  cases waits

theorem awaitsFrom_some_zero {n : Nat} :
    AwaitsFrom (some n) ls rest 0 ↔
      ∀ next, (heard ls ++ rest).head? = some next → ¬ next.AllBlank := by
  simp [AwaitsFrom, heard_nil, waiting]

theorem forall_le_length_cons {P : Nat → Prop} :
    (∀ i ≤ (l :: ls).length, P i) ↔ P 0 ∧ ∀ i ≤ ls.length, P (i + 1) := by
  constructor
  · intro all
    exact ⟨all 0 (Nat.zero_le _), fun i few => all (i + 1) (Nat.succ_le_succ few)⟩
  · rintro ⟨first, later⟩ i few
    cases i with
    | zero => exact first
    | succ i => exact later i (Nat.le_of_succ_le_succ few)

/-- A line that reads as nothing makes no difference to where messages are awaited. -/
theorem forall_awaitsFrom_silent (silent : dropReturn l = []) (gap : Nat → List Text) :
    (∀ i ≤ (l :: ls).length, AwaitsFrom open? (l :: ls) rest i → heard (gap i) = []) ↔
      ∀ i ≤ ls.length, AwaitsFrom open? ls rest i → heard (merged gap i) = [] := by
  have first : AwaitsFrom open? (l :: ls) rest 0 ↔ AwaitsFrom open? ls rest 0 := by
    simp only [AwaitsFrom, List.take_zero, List.drop_zero, heard_cons_of_silent silent]
  have later (i : Nat) : AwaitsFrom open? (l :: ls) rest (i + 1) ↔ AwaitsFrom open? ls rest i := by
    simp only [AwaitsFrom, List.take_succ_cons, List.drop_succ_cons, heard_cons_of_silent silent]
  simp only [forall_le_length_cons, first, later]
  constructor
  · rintro ⟨front, back⟩ i few awaits
    cases i with
    | zero => rw [merged, heard_append, front awaits, back 0 few awaits, List.append_nil]
    | succ i => exact back (i + 1) few awaits
  · intro all
    refine ⟨fun awaits => ?_, fun i few awaits => ?_⟩
    · have both := all 0 (Nat.zero_le _) awaits
      rw [merged, heard_append] at both
      exact (List.append_eq_nil_iff.mp both).1
    · have both := all i few awaits
      cases i with
      | zero =>
          rw [merged, heard_append] at both
          exact (List.append_eq_nil_iff.mp both).2
      | succ i => exact both

/-- What is told of the lines, behind whatever was heard before. -/
def told (related : Option Uri) (open? : Option Nat) (ls : List Text) : List Diagnostic :=
  (pairsFrom open? ls).map (diagnostic related)

/-- Where no message is awaited, white space is passed over. -/
theorem told_none_append (blank : ∀ b ∈ bs, b.AllBlank) (rest : List Text) :
    told related none (bs ++ rest) = told related none rest := by
  induction bs with
  | nil => rfl
  | cons b bs ih =>
      rw [List.forall_mem_cons] at blank
      rw [List.cons_append, told, pairsFrom, reportedLine?_of_allBlank blank.1]
      exact ih blank.2

theorem diagnostic_eq_iff {n : Nat} {l m : Text} :
    diagnostic related (n, l) = diagnostic related (n, m) ↔ l.trim = m.trim := by
  simp [diagnostic, Diagnostic.ofLine]

/-- Where one is, white space takes its place, and that shows unless it is white space too. -/
theorem told_some_append_iff {n : Nat} {b : Text} (blank : ∀ c ∈ b :: bs, c.AllBlank)
    (rest other : List Text) :
    told related (some n) (b :: bs ++ rest) = told related (some n) other ↔
      (∃ next, other.head? = some next ∧ next.AllBlank) ∧
        told related none rest = told related none other := by
  rw [List.forall_mem_cons] at blank
  have nothing : b.trim = [] := trim_eq_nil_iff.mpr blank.1
  have taken : told related (some n) (b :: bs ++ rest) =
      diagnostic related (n, b) :: told related none rest := by
    rw [← told_none_append blank.2 rest]
    rfl
  rw [taken]
  cases other with
  | nil => simp [told, pairsFrom]
  | cons next other =>
      have paired : told related (some n) (next :: other) =
          diagnostic related (n, next) :: told related none other := rfl
      rw [paired, List.cons.injEq, diagnostic_eq_iff, nothing, eq_comm, trim_eq_nil_iff]
      simp only [List.head?_cons, Option.some.injEq, exists_eq_left']
      refine and_congr_right fun white => ?_
      have passed : told related none (next :: other) = told related none other :=
        told_none_append (List.forall_mem_singleton.mpr white) other
      rw [passed]

theorem told_cons_none (m : Text) (rest : List Text) :
    told related none (m :: rest) = told related (reportedLine? m) rest := rfl

theorem told_cons_some (n : Nat) (m : Text) (rest : List Text) :
    told related (some n) (m :: rest) = diagnostic related (n, m) :: told related none rest := rfl

/-- Lines of white space change what is told exactly if one that can be heard stands where a
message is awaited. -/
theorem told_padded_iff {gap : Nat → List Text} (blank : ∀ i, ∀ b ∈ gap i, b.AllBlank) :
    told related open? (heard (padded gap ls) ++ rest) = told related open? (heard ls ++ rest) ↔
      ∀ i ≤ ls.length, AwaitsFrom open? ls rest i → heard (gap i) = [] := by
  induction ls generalizing open? gap with
  | nil =>
      have only : (∀ i ≤ ([] : List Text).length, AwaitsFrom open? [] rest i → heard (gap i) = []) ↔
          (AwaitsFrom open? [] rest 0 → heard (gap 0) = []) := by simp
      have first := allBlank_of_mem_heard (blank 0)
      rw [only, padded, heard_nil, List.nil_append]
      cases open? with
      | none => simp [told_none_append first, not_awaitsFrom_none_zero]
      | some n =>
          rw [awaitsFrom_some_zero]
          cases visible : heard (gap 0) with
          | nil => simp
          | cons b bs =>
              rw [visible] at first
              rw [told_some_append_iff first]
              simp [heard_nil]
  | cons l ls ih =>
      by_cases silent : dropReturn l = []
      · rw [heard_padded_of_silent silent, heard_cons_of_silent silent, ih (allBlank_merged blank),
          forall_awaitsFrom_silent silent]
      · have first := allBlank_of_mem_heard (blank 0)
        have later : ∀ i, ∀ b ∈ gap (i + 1), b.AllBlank := fun i => blank (i + 1)
        rw [forall_le_length_cons, padded, heard_append, heard_cons_of_audible silent,
          heard_cons_of_audible silent, List.append_assoc, List.cons_append, List.cons_append]
        cases open? with
        | none =>
            simp only [told_none_append first, told_cons_none, ih later, awaitsFrom_none_succ silent,
              not_awaitsFrom_none_zero, false_implies, true_and]
        | some n =>
            simp only [awaitsFrom_some_succ silent]
            rw [awaitsFrom_some_zero, ← ih later]
            cases visible : heard (gap 0) with
            | nil => simp [told_cons_some]
            | cons b bs =>
                rw [visible] at first
                rw [told_some_append_iff first, heard_cons_of_audible silent]
                by_cases white : (dropReturn l).AllBlank
                · simp [white, told_cons_none, reportedLine?_of_allBlank white]
                · simp [white]

end Reading

/-! ## Blank lines in a report -/

theorem plain_pieces (report : Text) :
    (∀ l ∈ (pieces report).1, '\n' ∉ l) ∧ '\n' ∉ (pieces report).2 := by
  induction report with
  | nil => simp [pieces]
  | cons c report ih =>
      by_cases ends : c = '\n'
      · simpa [pieces, ends] using ih
      · have other : '\n' ≠ c := Ne.symm ends
        cases found : (pieces report).1 <;> simp_all [pieces]

/-- A report is its lines with an LF behind each, and what follows the last LF. -/
theorem ended_pieces (report : Text) : ended (pieces report).1 ++ (pieces report).2 = report := by
  induction report with
  | nil => rfl
  | cons c report ih =>
      by_cases ends : c = '\n'
      · simp [pieces, ends, ended_cons, ih]
      · cases found : (pieces report).1 <;> simp_all [pieces, ended_cons]

theorem dropReturn_eq_nil_iff {l : Text} : dropReturn l = [] ↔ l = [] ∨ l = ['\r'] := by
  constructor
  · intro nothing
    by_contra either
    rw [not_or] at either
    exact dropReturn_ne_nil either.1 either.2 nothing
  · rintro (rfl | rfl) <;> rfl

theorem diagnostics_eq_told (report : Text) (related : Option Uri) :
    diagnostics report related = told related none (spoken report) := by
  rw [diagnostics, pairs_eq_pairsFrom, told]

theorem awaits_iff {ls : List Text} {tail : Text} (plain : ∀ l ∈ ls, '\n' ∉ l)
    (plain_tail : '\n' ∉ tail) (i : Nat) :
    Awaits ls tail i ↔ AwaitsFrom none ls ([tail].filter fun l => !l.isEmpty) i := by
  have front : ∀ l ∈ ls.take i, '\n' ∉ l := fun l member => plain l (List.mem_of_mem_take member)
  have back : ∀ l ∈ ls.drop i, '\n' ∉ l := fun l member => plain l (List.mem_of_mem_drop member)
  rw [Awaits, AwaitsFrom, spoken_ended_of_plain front, spoken_ended_append back plain_tail,
    endsOpen_eq_waiting]

theorem plain_padded {gap : Nat → List Text} {ls : List Text} (plain : ∀ l ∈ ls, '\n' ∉ l)
    (plain_gap : ∀ i, ∀ b ∈ gap i, '\n' ∉ b) : ∀ l ∈ padded gap ls, '\n' ∉ l := by
  induction ls generalizing gap with
  | nil => exact plain_gap 0
  | cons l ls ih =>
      rw [List.forall_mem_cons] at plain
      simp only [padded, List.forall_mem_append, List.forall_mem_cons]
      exact ⟨plain_gap 0, plain.1, ih plain.2 fun i => plain_gap (i + 1)⟩

/-- The LF behind the last line makes no difference, unless that is a lone CR. -/
theorem diagnostics_append_newline {ls : List Text} {tail : Text} (plain : ∀ l ∈ ls, '\n' ∉ l)
    (plain_tail : '\n' ∉ tail) (more : tail ≠ ['\r']) (related : Option Uri) :
    diagnostics (ended ls ++ tail ++ ['\n']) related = diagnostics (ended ls ++ tail) related := by
  have plain_all : ∀ l ∈ ls ++ [tail], '\n' ∉ l := by
    rw [List.forall_mem_append, List.forall_mem_singleton]
    exact ⟨plain, plain_tail⟩
  have whole : ended ls ++ tail ++ ['\n'] = ended (ls ++ [tail]) := by
    simp [ended_append, ended_cons]
  rcases spoken_joined plain_all with same | ⟨lone, -⟩
  · rw [joined_concat] at same
    rw [whole, diagnostics, diagnostics, spoken_ended_of_plain plain_all, pairs_congr same]
  · rw [List.getLast?_concat, Option.some.injEq] at lone
    exact absurd lone more

/-- A message is empty exactly if the line behind its place is white space. -/
theorem exists_empty_message_iff (report : Text) (related : Option Uri) :
    (∃ d ∈ diagnostics report related, d.message = []) ↔
      ∃ i ∈ places (spoken report), ∃ message, (spoken report)[i + 1]? = some message ∧
        message.AllBlank := by
  have told : (∃ d ∈ diagnostics report related, d.message = []) ↔
      ∃ problem ∈ pairs (spoken report), problem.2.AllBlank := by
    simp only [diagnostics, List.mem_map, ← trim_eq_nil_iff]
    constructor
    · rintro ⟨-, ⟨problem, member, rfl⟩, nothing⟩
      exact ⟨problem, member, nothing⟩
    · rintro ⟨problem, member, nothing⟩
      exact ⟨_, ⟨problem, member, rfl⟩, nothing⟩
  rw [told]
  have each := forall₂_pairs (spoken report)
  generalize places (spoken report) = indices, pairs (spoken report) = problems at each ⊢
  induction each with
  | nil => simp
  | @cons i problem indices problems here later ih =>
      have message : (∃ m, (spoken report)[i + 1]? = some m ∧ m.AllBlank) ↔ problem.2.AllBlank := by
        rw [here.2]
        simp
      simp only [List.exists_mem_cons_iff, ih, message]

/-- **Blank lines are passed over, but not where a message is awaited.**  Of every report:

1. put lines of white space in front of its lines, any number and anywhere, and behind the last
   LF: what is reported stays the same exactly if, wherever a message is awaited, all of them
   are empty or a lone CR;
2. what follows the last LF can be ended with an LF as well, unless it is a lone CR;
3. a message is empty exactly if the line behind a place is white space. -/
theorem blank_lines_passed_over (report : Text) (gap : Nat → List Text)
    (blank : ∀ i, ∀ b ∈ gap i, BlankLine b) (related : Option Uri) :
    let ls := (pieces report).1
    let tail := (pieces report).2
    ended ls ++ tail = report ∧
      (diagnostics (ended (padded gap ls) ++ tail) related = diagnostics report related ↔
        ∀ i ≤ ls.length, Awaits ls tail i → ∀ b ∈ gap i, b = [] ∨ b = ['\r']) ∧
      (tail ≠ ['\r'] → diagnostics (report ++ ['\n']) related = diagnostics report related) ∧
      ((∃ d ∈ diagnostics report related, d.message = []) ↔
        ∃ i ∈ places (spoken report), ∃ message, (spoken report)[i + 1]? = some message ∧
          message.AllBlank) := by
  intro ls tail
  obtain ⟨plain, plain_tail⟩ : (∀ l ∈ ls, '\n' ∉ l) ∧ '\n' ∉ tail := plain_pieces report
  have whole : ended ls ++ tail = report := ended_pieces report
  refine ⟨whole, ?_, fun more => ?_, exists_empty_message_iff report related⟩
  · have plain_all := plain_padded plain fun i b member => (blank i b member).plain
    have said : spoken report = heard ls ++ [tail].filter fun l => !l.isEmpty := by
      rw [← whole, spoken_ended_append plain plain_tail]
    rw [diagnostics_eq_told, diagnostics_eq_told, said, spoken_ended_append plain_all plain_tail,
      told_padded_iff fun i b member => (blank i b member).blank]
    simp only [awaits_iff plain plain_tail, heard_eq_nil_iff, dropReturn_eq_nil_iff]
  · rw [← whole]
    exact diagnostics_append_newline plain plain_tail more related

/-- White space in front of the place and behind the message, an empty line and a lone CR
between them. -/
theorem blank_lines_passed_over_around :
    let gap : Nat → List Text
      | 0 => ["  ".toList]
      | 1 => [[], ['\r']]
      | 2 => ["\t".toList]
      | _ => []
    (∀ i, ∀ b ∈ gap i, BlankLine b) ∧
      diagnostics "  \non line 1 of x\n\n\r\nbad\n\t\n".toList none =
        diagnostics "on line 1 of x\nbad\n".toList none := by
  intro gap
  have blank : ∀ i, ∀ b ∈ gap i, BlankLine b := by
    intro i b member
    match i, member with
    | 0, member =>
        obtain rfl := List.mem_singleton.mp member
        exact ⟨by decide, by decide⟩
    | 1, member =>
        rcases List.mem_pair.mp member with rfl | rfl
        · exact ⟨by decide, by decide⟩
        · exact ⟨by decide, by decide⟩
    | 2, member =>
        obtain rfl := List.mem_singleton.mp member
        exact ⟨by decide, by decide⟩
  refine ⟨blank, ?_⟩
  refine (blank_lines_passed_over "on line 1 of x\nbad\n".toList gap blank none).2.1.mpr ?_
  intro i few awaits
  match i, few with
  | 0, _ => exact absurd awaits.1 (by decide)
  | 1, _ => decide
  | 2, _ => exact absurd awaits.1 (by decide)

/-- **A line of two blanks is taken for the message.**  The message itself is left over, and the
diagnostic says nothing. -/
theorem white_line_taken_for_message :
    BlankLine "  ".toList ∧
      diagnostics (ended ["on line 1 of x".toList, "bad".toList]) none =
        [.ofLine none 0 "bad".toList] ∧
      diagnostics (ended ["on line 1 of x".toList, "  ".toList, "bad".toList]) none =
        [.ofLine none 0 []] ∧
      diagnostics (ended ["on line 1 of x".toList, "  ".toList, "bad".toList]) none ≠
        diagnostics (ended ["on line 1 of x".toList, "bad".toList]) none :=
  ⟨⟨by decide, by decide⟩, by decide, by decide, by decide⟩

end Kickstart.Report
