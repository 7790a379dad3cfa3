/-
# Kickstart.Proofs.Report.Noise -- reports one behind the other

Reports are put one behind the other, with lines between them that are no locations and
with empty lines anywhere (`Spaced`).  As long as the first report is complete, that is,
does not end on a location line without a message (`endsOpen`), the diagnostics are those
of the reports, one list behind the other (`noise_passed_over`).

One thing stands in the way, and it is a defect of the reading: a line of white space is not
dropped as the blank line that it is, and where a message is awaited it is taken for it.
`Report.Layout` tells what that costs in general (`white_line_taken_for_message`).  Here it comes
in by way of CR.  A CR in front of an LF belongs to the line end, while a CR at the very end of a
text does not.  On most lines that makes no difference, neither to the number they report nor to
what is left after trimming (`sameSaid_dropReturn`).  But a lone CR is dropped where an LF follows,
and is a message where none does (`lone_return_lost`).  So a report is judged complete with an LF
behind its last line, which is the condition under which the defect does not show.
-/
import Kickstart.Proofs.Report.Pairing
import Kickstart.Proofs.Report.Reading

namespace Kickstart

set_option autoImplicit false

/-! ## A CR at the end of a line -/

namespace Text

theorem trim_append_return (t : Text) : trim (t ++ ['\r']) = trim t := by
  have blank : isBlank '\r' = true := by decide
  unfold trim trimStart trimEnd
  rw [List.dropWhile_append]
  split
  · rename_i all_blank
    rw [List.isEmpty_iff.mp all_blank]
    simp [blank]
  · simp [blank]

end Text

namespace Report

open Text

theorem isPrefixOf_append_singleton {part : Text} {c : Char} (absent : c ∉ part) (t : Text) :
    part.isPrefixOf (t ++ [c]) = part.isPrefixOf t := by
  have same : part <+: t ++ [c] ↔ part <+: t := by
    rw [List.prefix_concat_iff]
    refine or_iff_right fun whole => absent ?_
    rw [whole]
    exact List.mem_append_right t List.mem_cons_self
  rw [Bool.eq_iff_iff, List.isPrefixOf_iff_prefix, List.isPrefixOf_iff_prefix, same]

theorem span_append_stop {stops : Char → Bool} {c : Char} (stop : stops c = false) (t : Text) :
    (t ++ [c]).span stops = (t.takeWhile stops, t.dropWhile stops ++ [c]) := by
  rw [List.span_eq_takeWhile_dropWhile]
  induction t with
  | nil => simp [stop]
  | cons d rest ih =>
      rw [Prod.mk.injEq] at ih
      cases goes : stops d with
      | true => simp [goes, ih.1, ih.2]
      | false => simp [goes]

/-- The match at the start of a text does not reach a CR at its end. -/
theorem digitsHere?_append_return (t : Text) : digitsHere? (t ++ ['\r']) = digitsHere? t := by
  unfold digitsHere?
  rw [isPrefixOf_append_singleton (by decide)]
  split
  · rename_i begins
    have long := (List.isPrefixOf_iff_prefix.mp begins).length_le
    have no_digit : isDigit '\r' = false := by decide
    have absent : '\r' ∉ trail := by decide
    simp only [List.drop_append_of_le_length long, span_append_stop no_digit,
      isPrefixOf_append_singleton absent, List.span_eq_takeWhile_dropWhile]
  · rfl

theorem digits?_append_return (t : Text) : digits? (t ++ ['\r']) = digits? t := by
  induction t with
  | nil => decide
  | cons c rest ih =>
      rw [List.cons_append, digits?, digits?, ih, ← List.cons_append, digitsHere?_append_return]

/-- Two lines that read the same, as a location and as a message. -/
structure SameSaid (l m : Text) : Prop where
  number : reportedLine? l = reportedLine? m
  message : l.trim = m.trim

theorem sameSaid_dropReturn (l : Text) : SameSaid l (dropReturn l) := by
  unfold dropReturn
  split
  · rename_i last
    have shape : l = l.dropLast ++ ['\r'] := (List.dropLast_append_getLast? '\r' last).symm
    rw [shape, List.dropLast_concat]
    exact ⟨by rw [reportedLine?, digits?_append_return]; rfl, trim_append_return _⟩
  · exact ⟨rfl, rfl⟩

/-! ## Complete reports -/

/-- The lines end on a location line that is no message and has none. -/
def endsOpen : List Text → Bool
  | [] => false
  | [place] => (reportedLine? place).isSome
  | place :: message :: rest =>
    match reportedLine? place with
    | some _ => endsOpen rest
    | none => endsOpen (message :: rest)

theorem endsOpen_cons_of_silent {line : Text} (silent : reportedLine? line = none)
    (ls : List Text) : endsOpen (line :: ls) = endsOpen ls := by
  cases ls with
  | nil => simp [endsOpen, silent]
  | cons message rest => rw [endsOpen, silent]

/-- Behind complete lines the reading starts anew. -/
theorem read_append {ls : List Text} (complete : endsOpen ls = false) (more : List Text) :
    pairs (ls ++ more) = pairs ls ++ pairs more ∧ endsOpen (ls ++ more) = endsOpen more := by
  fun_induction endsOpen ls with
  | case1 => exact ⟨rfl, rfl⟩
  | case2 place =>
      have silent : reportedLine? place = none := by simpa using complete
      exact ⟨pairs_cons_of_silent silent more, endsOpen_cons_of_silent silent more⟩
  | case3 place message rest n reported ih =>
      obtain ⟨paired, ends⟩ := ih complete
      simp only [List.cons_append, pairs_cons_of_place reported, endsOpen, reported]
      exact ⟨by rw [paired], ends⟩
  | case4 place message rest silent ih =>
      obtain ⟨paired, ends⟩ := ih complete
      simp only [List.cons_append] at paired ends ⊢
      rw [pairs_cons_of_silent silent, pairs_cons_of_silent silent, endsOpen_cons_of_silent silent]
      exact ⟨paired, ends⟩

/-- Lines that are no locations are complete and make no pairs. -/
theorem read_silent {ls : List Text} (silent : ∀ l ∈ ls, reportedLine? l = none) :
    pairs ls = [] ∧ endsOpen ls = false := by
  induction ls with
  | nil => exact ⟨rfl, rfl⟩
  | cons line ls ih =>
      have here := silent line List.mem_cons_self
      rw [pairs_cons_of_silent here, endsOpen_cons_of_silent here]
      exact ih fun l member => silent l (List.mem_cons_of_mem line member)

/-! ## Lines with an LF between them -/

/-- Lines as a text, an LF between them. -/
def joined (ls : List Text) : Text := List.intercalate ['\n'] ls

/-- The lines as they read with an LF behind each. -/
def heard (ls : List Text) : List Text := (ls.map dropReturn).filter fun l => !l.isEmpty

theorem heard_append (ls more : List Text) : heard (ls ++ more) = heard ls ++ heard more := by
  simp [heard]

theorem joined_concat (ls : List Text) (last : Text) :
    joined (ls ++ [last]) = ended ls ++ last := by
  induction ls with
  | nil => simp [joined]
  | cons l ls ih =>
      have step : joined (l :: (ls ++ [last])) = l ++ '\n' :: joined (ls ++ [last]) := by
        cases ls <;> simp [joined, List.intercalate]
      rw [List.cons_append, step, ih, ended_cons, List.append_assoc, List.cons_append]

theorem spoken_ended_append {ls : List Text} {last : Text} (plain : ∀ l ∈ ls, '\n' ∉ l)
    (plain_last : '\n' ∉ last) :
    spoken (ended ls ++ last) = heard ls ++ [last].filter fun l => !l.isEmpty := by
  rw [spoken, lines, pieces_ended_append plain plain_last, List.filter_append]
  cases last <;> rfl

theorem spoken_ended_of_plain {ls : List Text} (plain : ∀ l ∈ ls, '\n' ∉ l) :
    spoken (ended ls) = heard ls := by
  simpa using spoken_ended_append plain List.not_mem_nil

theorem dropReturn_ne_nil {l : Text} (visible : l ≠ []) (more : l ≠ ['\r']) :
    dropReturn l ≠ [] := by
  unfold dropReturn
  split
  · rename_i last
    intro nothing
    refine more ?_
    rw [← List.dropLast_append_getLast? '\r' last, nothing]
    rfl
  · exact visible

/-- Only a last line that is a CR and nothing else reads differently when no LF follows. -/
theorem spoken_joined {ls : List Text} (plain : ∀ l ∈ ls, '\n' ∉ l) :
    List.Forall₂ SameSaid (spoken (joined ls)) (heard ls) ∨
      ls.getLast? = some ['\r'] ∧ spoken (joined ls) = heard ls ++ [['\r']] := by
  rcases List.eq_nil_or_concat ls with rfl | ⟨init, last, rfl⟩
  · exact .inl .nil
  · rw [List.concat_eq_append] at plain ⊢
    have plain_init : ∀ l ∈ init, '\n' ∉ l :=
      fun l member => plain l (List.mem_append_left [last] member)
    rw [joined_concat, spoken_ended_append plain_init (plain last (by simp)), heard_append]
    by_cases lone : last = ['\r']
    · subst lone
      exact .inr ⟨by simp, by simp [heard, dropReturn]⟩
    · refine .inl (List.rel_append (List.forall₂_same.mpr fun l _ => ⟨rfl, rfl⟩) ?_)
      by_cases empty : last = []
      · subst empty
        exact .nil
      · have visible := dropReturn_ne_nil empty lone
        simpa [heard, empty, visible] using sameSaid_dropReturn last

theorem pairs_congr {related : Option Uri} {ls ms : List Text}
    (same : List.Forall₂ SameSaid ls ms) :
    (pairs ls).map (diagnostic related) = (pairs ms).map (diagnostic related) := by
  induction ls using pairs.induct generalizing ms with
  | case1 place message rest n reported ih =>
      obtain ⟨place', tail, here, same_tail, rfl⟩ := List.forall₂_cons_left_iff.mp same
      obtain ⟨message', rest', behind, same_rest, rfl⟩ := List.forall₂_cons_left_iff.mp same_tail
      rw [pairs_cons_of_place reported, pairs_cons_of_place (here.number.symm.trans reported),
        List.map_cons, List.map_cons, ih same_rest]
      simp only [diagnostic, behind.message]
  | case2 place message rest silent ih =>
      obtain ⟨place', tail, here, same_tail, rfl⟩ := List.forall₂_cons_left_iff.mp same
      rw [pairs_cons_of_silent silent, pairs_cons_of_silent (here.number.symm.trans silent)]
      exact ih same_tail
  | case3 ls short =>
      have fewer := length_lt_two short
      rw [pairs_of_fewer fewer, pairs_of_fewer (same.length_eq ▸ fewer)]

/-- The diagnostics of lines, whether or not an LF follows the last of them. -/
theorem diagnostics_joined {ls : List Text} (plain : ∀ l ∈ ls, '\n' ∉ l)
    (complete : ls.getLast? = some ['\r'] → endsOpen (heard ls) = false) (related : Option Uri) :
    diagnostics (joined ls) related = (pairs (heard ls)).map (diagnostic related) := by
  unfold diagnostics
  rcases spoken_joined plain with same | ⟨lone, longer⟩
  · exact pairs_congr same
  · rw [longer, (read_append (complete lone) _).1]
    simp [pairs]

/-! ## Reports one behind the other -/

/-- The lines of the second list are those of the first, with empty lines put in. -/
inductive Spaced : List Text → List Text → Prop where
  | nil : Spaced [] []
  | line (l : Text) {ls all : List Text} (rest : Spaced ls all) : Spaced (l :: ls) (l :: all)
  | empty {ls all : List Text} (rest : Spaced ls all) : Spaced ls ([] :: all)

namespace Spaced

theorem heard_eq {ls all : List Text} (spaced : Spaced ls all) : heard all = heard ls := by
  induction spaced with
  | nil => rfl
  | line l rest ih =>
      rw [← List.singleton_append, heard_append, ih, ← heard_append, List.singleton_append]
  | empty rest ih => exact ih

theorem plain {ls all : List Text} (spaced : Spaced ls all) (plain : ∀ l ∈ ls, '\n' ∉ l) :
    ∀ l ∈ all, '\n' ∉ l := by
  induction spaced with
  | nil => exact plain
  | line l rest ih =>
      rw [List.forall_mem_cons] at plain ⊢
      exact ⟨plain.1, ih plain.2⟩
  | empty rest ih => exact List.forall_mem_cons.mpr ⟨List.not_mem_nil, ih plain⟩

theorem nil_of_nil {ls : List Text} (spaced : Spaced ls []) : ls = [] := by
  cases spaced
  rfl

/-- The last line is an empty one that was put in, or the last of the lines. -/
theorem getLast?_of_visible {ls all : List Text} (spaced : Spaced ls all) {last : Text}
    (visible : last ≠ []) (ends : all.getLast? = some last) : ls.getLast? = some last := by
  induction spaced with
  | nil => exact ends
  | @line l ls all rest ih =>
      cases found : all.getLast? with
      | none =>
          obtain rfl := List.getLast?_eq_none_iff.mp found
          rw [rest.nil_of_nil]
          exact ends
      | some x =>
          rw [List.getLast?_cons, found] at ends
          have inner := ih (found.trans ends)
          rw [List.getLast?_cons, inner, Option.getD_some]
  | @empty ls all rest ih =>
      cases found : all.getLast? with
      | none =>
          obtain rfl := List.getLast?_eq_none_iff.mp found
          exact absurd (Option.some.inj ends).symm visible
      | some x =>
          rw [List.getLast?_cons, found] at ends
          exact ih (found.trans ends)

end Spaced

/-- **Noise between complete reports is passed over.**  Put lines that are no locations
between two reports, and empty lines anywhere: if the first report, with an LF behind its
last line, does not end on a location line without a message, the diagnostics are those of
the first report and then those of the second.  A second report that ends with a lone CR
has to be complete in the same sense, since an empty line may follow it. -/
theorem noise_passed_over (first noise second all : List Text) (related : Option Uri)
    (plain : ∀ l ∈ first ++ noise ++ second, '\n' ∉ l)
    (silent : ∀ l ∈ noise, reportedLine? l = none)
    (complete : endsOpen (spoken (ended first)) = false)
    (complete_second : second.getLast? = some ['\r'] → endsOpen (spoken (ended second)) = false)
    (spaced : Spaced (first ++ noise ++ second) all) :
    diagnostics (joined all) related =
      diagnostics (joined first) related ++ diagnostics (joined second) related := by
  have plain_first : ∀ l ∈ first, '\n' ∉ l := fun l member => plain l (by simp [member])
  have plain_second : ∀ l ∈ second, '\n' ∉ l := fun l member => plain l (by simp [member])
  rw [spoken_ended_of_plain plain_first] at complete
  rw [spoken_ended_of_plain plain_second] at complete_second
  have silent_heard : ∀ l ∈ heard noise, reportedLine? l = none := by
    intro l member
    obtain ⟨line, inside, rfl⟩ := List.mem_map.mp (List.mem_filter.mp member).1
    rw [← (sameSaid_dropReturn line).number, silent line inside]
  -- complete lines and then silent ones: from there on only the second report is read
  obtain ⟨pairs_first, open_first⟩ := read_append complete (heard noise ++ heard second)
  obtain ⟨no_pairs, complete_noise⟩ := read_silent silent_heard
  obtain ⟨pairs_noise, open_noise⟩ := read_append complete_noise (heard second)
  have shape : heard all = heard first ++ (heard noise ++ heard second) := by
    rw [spaced.heard_eq, heard_append, heard_append, List.append_assoc]
  have complete_all : all.getLast? = some ['\r'] → endsOpen (heard all) = false := by
    intro lone
    have last := spaced.getLast?_of_visible (by decide) lone
    rw [shape, open_first, open_noise]
    rw [List.getLast?_append] at last
    cases found : second.getLast? with
    | none =>
        rw [List.getLast?_eq_none_iff.mp found]
        rfl
    | some x =>
        rw [found, Option.some_or] at last
        exact complete_second (found.trans last)
  rw [diagnostics_joined (spaced.plain plain) complete_all, shape, pairs_first, pairs_noise,
    no_pairs, List.nil_append, List.map_append, diagnostics_joined plain_first fun _ => complete,
    diagnostics_joined plain_second complete_second]

/-- A message that looks like a location, CR LF line ends, noise, and empty lines on all sides. -/
theorem noise_passed_over_lookalike :
    endsOpen (spoken (ended ["on line 1 of a\r".toList, "on line 2 of a\r".toList])) = false ∧
      diagnostics "\non line 1 of a\r\n\non line 2 of a\r\nnoise\n\non line 0 of b\nx\n".toList none =
        diagnostics "on line 1 of a\r\non line 2 of a\r".toList none ++
          diagnostics "on line 0 of b\nx".toList none := by
  have complete :
      endsOpen (spoken (ended ["on line 1 of a\r".toList, "on line 2 of a\r".toList])) = false := by
    decide
  have passed := noise_passed_over ["on line 1 of a\r".toList, "on line 2 of a\r".toList]
    ["noise".toList] ["on line 0 of b".toList, "x".toList]
    [[], "on line 1 of a\r".toList, [], "on line 2 of a\r".toList, "noise".toList, [],
      "on line 0 of b".toList, "x".toList, []] none (by decide) (by decide) complete (by decide)
    (.empty (.line _ (.empty (.line _ (.line _ (.empty (.line _ (.line _ (.empty .nil)))))))))
  have text :
      joined [[], "on line 1 of a\r".toList, [], "on line 2 of a\r".toList, "noise".toList, [],
        "on line 0 of b".toList, "x".toList, []] =
      "\non line 1 of a\r\n\non line 2 of a\r\nnoise\n\non line 0 of b\nx\n".toList := by decide
  have text_first : joined ["on line 1 of a\r".toList, "on line 2 of a\r".toList] =
      "on line 1 of a\r\non line 2 of a\r".toList := by decide
  have text_second : joined ["on line 0 of b".toList, "x".toList] =
      "on line 0 of b\nx".toList := by decide
  rw [text, text_first, text_second] at passed
  exact ⟨complete, passed⟩

/-- **A lone CR is taken for a message.**  It is the defect of `white_line_taken_for_message` once
more: a white line at the end of a report is not dropped, so that a location line without a message
gets an empty one.  Nothing of that is left when more follows: the next line becomes the message,
and when it is an empty one there is no diagnostic at all. -/
theorem lone_return_lost :
    let report := ["on line 1 of x".toList, ['\r']]
    (∀ l ∈ report, '\n' ∉ l) ∧ endsOpen (spoken (joined report)) = false ∧
      diagnostics (joined report) none = [.ofLine none 0 []] ∧
      diagnostics (joined (report ++ [] ++ ["y".toList])) none ≠
        diagnostics (joined report) none ++ diagnostics (joined ["y".toList]) none ∧
      Spaced ([] ++ [] ++ report) (report ++ [[]]) ∧
      diagnostics (joined (report ++ [[]])) none ≠
        diagnostics (joined []) none ++ diagnostics (joined report) none := by
  refine ⟨by decide, by decide, by decide, by decide, ?_, by decide⟩
  exact .line _ (.line _ (.empty .nil))

end Report

end Kickstart
