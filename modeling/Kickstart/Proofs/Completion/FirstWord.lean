/-
# Kickstart.Proofs.Completion.FirstWord -- the first word decides what is offered

The part of a line before the cursor has one of two shapes.  Its first word is complete, with
white space behind it (`Completed`), or the word is still growing, perhaps not begun yet
(`Growing`).  Every text has exactly one of them (`completed_iff_not_growing`), and a word
that is complete is the only one (`Completed.unique`).

Two scans look for the first word.  One skips white space and asks whether more follows
(`firstWordDone`), the other one cuts the word out (`Text.firstWord?`).  They agree on where it
ends (`firstWordDone_iff`), so that the second never comes back without a word once the first
has found white space behind one.
-/
import Mathlib.Data.List.Nodup
import Kickstart.Completion.Offer
import Kickstart.Proofs.Text.Blank

namespace Kickstart

set_option autoImplicit false

open Text

/-! ## The table -/

namespace Command

theorem nodup_names : (table.map name).Nodup := by decide

/-- There is one command of a name. -/
theorem eq_of_name_eq {c d : Command} (here : c ∈ table) (there : d ∈ table)
    (same : c.name = d.name) : c = d :=
  List.inj_on_of_nodup_map nodup_names here there same

theorem find?_of_mem {c : Command} (member : c ∈ table) : find? c.name = some c := by
  have found : (find? c.name).isSome = true := by
    rw [find?, List.find?_isSome]
    exact ⟨c, member, by simp⟩
  obtain ⟨d, found⟩ := Option.isSome_iff_exists.mp found
  have same : d.name = c.name := by simpa using List.find?_some found
  rw [found, eq_of_name_eq (List.mem_of_find?_eq_some found) member same]

theorem find?_of_unknown {word : String} (unknown : ∀ c ∈ table, c.name ≠ word) :
    find? word = none := by
  rw [find?, List.find?_eq_none]
  intro c member
  simpa using unknown c member

end Command

namespace Offer

/-! ## The shapes of a line -/

/-- White space, a word, and white space behind it. -/
def Completed (word before : Text) : Prop :=
  ∃ margin c rest, before = margin ++ word ++ c :: rest ∧ margin.AllBlank ∧
    word ≠ [] ∧ word.Solid ∧ isBlank c = true

/-- White space and the beginning of a word, which may be nothing yet. -/
def Growing (before : Text) : Prop :=
  ∃ margin word, before = margin ++ word ∧ margin.AllBlank ∧ word.Solid

variable {word before : Text}

/-- Every line has one of the shapes. -/
theorem completed_or_growing (before : Text) : (∃ word, Completed word before) ∨ Growing before := by
  have margin_blank : AllBlank (before.takeWhile isBlank) := fun _ => List.mem_takeWhile_imp
  have cut : before = before.takeWhile isBlank ++ trimStart before :=
    List.takeWhile_append_dropWhile.symm
  -- behind the margin: a word, and what stops it
  let word : Text := (trimStart before).takeWhile fun c => !isBlank c
  have solid : word.Solid := fun c member => by
    simpa using List.mem_takeWhile_imp (p := fun c => !isBlank c) member
  have shape : trimStart before = word ++ (trimStart before).dropWhile fun c => !isBlank c :=
    List.takeWhile_append_dropWhile.symm
  cases stop : (trimStart before).dropWhile fun c => !isBlank c with
  | nil =>
      rw [stop, List.append_nil] at shape
      exact .inr ⟨_, word, shape ▸ cut, margin_blank, solid⟩
  | cons c rest =>
      rw [stop] at shape
      have blank : isBlank c = true := by
        have stopped := List.head?_dropWhile_not (fun c => !isBlank c) (trimStart before)
        rw [stop] at stopped
        simpa using stopped
      refine .inl ⟨word, _, c, rest, by rw [List.append_assoc, ← shape, ← cut], margin_blank, ?_,
        solid, blank⟩
      intro nothing
      rw [nothing, List.nil_append] at shape
      rw [head_trimStart shape] at blank
      cases blank

theorem Completed.trimStart_eq (completed : Completed word before) :
    ∃ c rest, trimStart before = word ++ c :: rest ∧ isBlank c = true := by
  obtain ⟨margin, c, rest, rfl, blank, filled, solid, ends⟩ := completed
  refine ⟨c, rest, ?_, ends⟩
  rw [List.append_assoc, trimStart_append blank, trimStart_of_solid filled solid]

theorem Completed.firstWordDone (completed : Completed word before) :
    firstWordDone before = true := by
  obtain ⟨c, rest, left, ends⟩ := completed.trimStart_eq
  rw [Offer.firstWordDone, left, List.any_append, List.any_cons, ends, Bool.true_or, Bool.or_true]

theorem Completed.firstWord? (completed : Completed word before) :
    Text.firstWord? before = some word := by
  obtain ⟨c, rest, left, ends⟩ := completed.trimStart_eq
  obtain ⟨-, -, -, -, -, filled, solid, -⟩ := completed
  have taken : (trimStart before).takeWhile (fun c => !isBlank c) = word := by
    rw [left, List.takeWhile_append_of_pos fun c member => by simp [solid c member],
      List.takeWhile_cons_of_neg (by simp [ends]), List.append_nil]
  rw [Text.firstWord?, taken]
  cases word with
  | nil => exact absurd rfl filled
  | cons c word => rfl

theorem Completed.unique {other : Text} (completed : Completed word before)
    (completed_other : Completed other before) : word = other :=
  Option.some.inj (completed.firstWord?.symm.trans completed_other.firstWord?)

/-- What is typed from then on does not matter. -/
theorem Completed.append (completed : Completed word before) (more : Text) :
    Completed word (before ++ more) := by
  obtain ⟨margin, c, rest, rfl, shape⟩ := completed
  exact ⟨margin, c, rest ++ more, by simp, shape⟩

theorem Growing.firstWordDone (growing : Growing before) : firstWordDone before = false := by
  obtain ⟨margin, word, rfl, blank, solid⟩ := growing
  rw [Offer.firstWordDone, trimStart_append blank, List.any_eq_false]
  intro c member
  have inside : c ∈ word := (List.dropWhile_sublist isBlank).subset member
  simp [solid c inside]

theorem completed_iff_not_growing : (∃ word, Completed word before) ↔ ¬ Growing before := by
  constructor
  · rintro ⟨word, completed⟩ growing
    have both := completed.firstWordDone.symm.trans growing.firstWordDone
    cases both
  · exact (completed_or_growing before).resolve_right

/-- The two scans agree on whether there is a first word, and on where it ends. -/
theorem firstWordDone_iff :
    firstWordDone before = true ↔
      ∃ word, Text.firstWord? before = some word ∧ Completed word before := by
  constructor
  · intro done
    rcases completed_or_growing before with ⟨word, completed⟩ | growing
    · exact ⟨word, completed.firstWord?, completed⟩
    · rw [growing.firstWordDone] at done
      cases done
  · rintro ⟨word, -, completed⟩
    exact completed.firstWordDone

/-! ## What is offered -/

theorem complete_of_completed (completed : Completed word before) :
    complete before =
      match Command.find? (String.ofList word) with
      | some found => found.arguments.map ofSnippet
      | none => [] := by
  rw [complete, if_pos completed.firstWordDone, completed.firstWord?]
  rfl

theorem complete_of_growing (growing : Growing before) :
    complete before = Command.table.map ofCommand := by
  rw [complete, if_neg (by simp [growing.firstWordDone])]

/-- White space in front of the line does not show. -/
theorem complete_append_margin {margin : Text} (blank : margin.AllBlank) (before : Text) :
    complete (margin ++ before) = complete before := by
  have done : firstWordDone (margin ++ before) = firstWordDone before := by
    rw [firstWordDone, firstWordDone, trimStart_append blank]
  have word : Text.firstWord? (margin ++ before) = Text.firstWord? before := by
    rw [Text.firstWord?, Text.firstWord?, trimStart_append blank]
  rw [complete, complete, done, word]

/-- **The first word decides.**  On every line, of whatever characters:

1. if the first word is complete, the snippets of the one command of that name are offered,
   in the order of the table, and nothing if there is none, whatever is typed from then on;
2. if not, all commands are offered, in the order of the table;
3. white space in front makes no difference;
4. the first word is either complete, and then it is one word only, or still growing;
5. if white space follows it, there is a first word to look up. -/
theorem first_word_decides (before : Text) :
    (∀ word, Completed word before →
      ((∃ found ∈ Command.table, found.name.toList = word ∧
          (∀ other ∈ Command.table, other.name.toList = word → other = found) ∧
          complete before = found.arguments.map ofSnippet) ∨
        (∀ c ∈ Command.table, c.name.toList ≠ word) ∧ complete before = []) ∧
      ∀ more, complete (before ++ more) = complete before) ∧
    ((∀ word, ¬ Completed word before) → complete before = Command.table.map ofCommand) ∧
    (∀ margin : Text, margin.AllBlank → complete (margin ++ before) = complete before) ∧
    ((∃ word, Completed word before) ↔ ¬ Growing before) ∧
    (∀ word other, Completed word before → Completed other before → word = other) ∧
    (firstWordDone before = true → ∃ word, Text.firstWord? before = some word) := by
  refine ⟨fun word completed => ⟨?_, fun more => ?_⟩, fun incomplete => ?_,
    fun margin blank => complete_append_margin blank before, completed_iff_not_growing,
    fun word other completed completed_other => completed.unique completed_other, fun done => ?_⟩
  · rw [complete_of_completed completed]
    by_cases known : ∃ found ∈ Command.table, found.name.toList = word
    · obtain ⟨found, member, rfl⟩ := known
      refine .inl ⟨found, member, rfl, fun other there same => ?_, ?_⟩
      · exact Command.eq_of_name_eq there member (String.toList_inj.mp same)
      · rw [String.ofList_toList, Command.find?_of_mem member]
    · have unknown : ∀ c ∈ Command.table, c.name.toList ≠ word := by
        intro c member same
        exact known ⟨c, member, same⟩
      refine .inr ⟨unknown, ?_⟩
      rw [Command.find?_of_unknown fun c member same => unknown c member (by simp [same])]
  · rw [complete_of_completed completed, complete_of_completed (completed.append more)]
  · exact complete_of_growing ((completed_or_growing before).resolve_left (not_exists.mpr incomplete))
  · obtain ⟨word, found, -⟩ := firstWordDone_iff.mp done
    exact ⟨word, found⟩

/-- An ideographic space before the command, a no-break space behind it. -/
theorem first_word_decides_wide :
    Completed "reboot".toList "\u3000\treboot\u00a0-".toList ∧
      ∀ more, complete ("\u3000\treboot\u00a0-".toList ++ more) =
        [.snippet "--eject" "--eject", .snippet "--kexec" "--kexec"] := by
  have completed : Completed "reboot".toList "\u3000\treboot\u00a0-".toList :=
    ⟨"\u3000\t".toList, '\u00a0', "-".toList, by decide, by decide, by decide, by decide, by decide⟩
  refine ⟨completed, fun more => ?_⟩
  rw [((first_word_decides "\u3000\treboot\u00a0-".toList).1 _ completed).2 more]
  decide

end Offer

end Kickstart
