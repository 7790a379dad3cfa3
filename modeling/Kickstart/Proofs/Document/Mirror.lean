/-
# Kickstart.Proofs.Document.Mirror -- the stored text and the editor's buffer

An editor ends lines at LF, CR and CR LF only, and gives positions by its own lines
(`Change.message`).  The store resolves them by the lines of `cut`, which also ends
lines at VT, FF, NEL, U+2028 and U+2029.  This module says exactly when that makes
no difference.

A change is plain (`Change.Plain`) when none of these five stands in the buffer
before the last character in front of the change's end.

* `store_mirrors_buffer`: along every run of batches of plain changes the stored
  text is the editor's buffer and the stored version is the last one sent; and a
  range is replaced as the editor replaces it, whatever the new text, exactly when
  the change is plain.
* `vertical_tab_desynchronises`: behind a VT the two texts part.
-/
import Kickstart.Document.Store
import Kickstart.Proofs.Document.Position

namespace Kickstart

set_option autoImplicit false

open Lines

/-! ## Positions behind other line ends -/

namespace Lines

open Text

/-- The lines that an editor counts before an index end before it also for `cut`, which has
no fewer of them: a position on any of them resolves to an earlier index. -/
theorem indexOf_lt_of_line_lt {t : Text} {i line : Nat} (column : Nat)
    (earlier : line < (positionAt isReturn t i).line) : indexOf t ⟨line, column⟩ < i := by
  induction t generalizing i line column with
  | nil =>
      rw [positionAt_nil] at earlier
      exact absurd earlier (Nat.not_lt_zero line)
  | cons c rest ih =>
      cases i with
      | zero => exact absurd earlier (Nat.not_lt_zero line)
      | succ i =>
          cases closes : endsLine isReturn c rest with
          | true =>
              have breaks := endClass_isReturn.endsLine_isBreak closes
              rw [positionAt_cons_of_ends closes] at earlier
              cases line with
              | zero =>
                  have stops : isReturn c = true := (Bool.and_eq_true_iff.mp closes).1
                  rw [indexOf_cons_of_ends_first breaks, if_pos (Or.inl stops)]
                  exact Nat.succ_pos i
              | succ line =>
                  rw [indexOf_cons_of_ends breaks]
                  exact Nat.succ_lt_succ (ih column (Nat.lt_of_succ_lt_succ earlier))
          | false =>
              have earlier_rest : line < (positionAt isReturn rest i).line := by
                rw [positionAt_cons_of_inside closes] at earlier
                split at earlier
                · exact absurd earlier (Nat.not_lt_zero line)
                · exact earlier
              cases breaks : endsLine isBreak c rest with
              | true =>
                  cases line with
                  | zero =>
                      have behind : 0 < i := Nat.lt_of_le_of_lt (Nat.zero_le _) (ih 0 earlier_rest)
                      rw [indexOf_cons_of_ends_first breaks]
                      split <;> omega
                  | succ line =>
                      rw [indexOf_cons_of_ends breaks]
                      exact Nat.succ_lt_succ (ih column (Nat.lt_of_succ_lt earlier_rest))
              | false =>
                  cases line with
                  | zero =>
                      rw [indexOf_cons_of_inside_first breaks]
                      split
                      · exact Nat.succ_pos i
                      · exact Nat.succ_lt_succ (ih _ earlier_rest)
                  | succ line =>
                      rw [indexOf_cons_of_inside breaks]
                      exact Nat.succ_lt_succ (ih column earlier_rest)

/-- Behind another line end than CR and LF, an editor's position resolves too early. -/
theorem indexOf_positionAt_lt {t : Text} {i : Nat} {d : Char} (before : d ∈ t.take (i - 1))
    (breaks : isBreak d = true) (ordinary : isReturn d = false) :
    indexOf t (positionAt isReturn t i) < i := by
  induction t generalizing i with
  | nil => simp at before
  | cons c rest ih =>
      obtain ⟨k, rfl⟩ : ∃ k, i = k + 2 := by
        match i, before with
        | 0, before => simp at before
        | 1, before => simp at before
        | k + 2, _ => exact ⟨k, rfl⟩
      have member : d = c ∨ d ∈ rest.take k := by simpa using before
      cases breaks_c : endsLine isBreak c rest with
      | true =>
          cases closes : endsLine isReturn c rest with
          | true =>
              -- The line ends for both sides, so `d` stands behind it.
              have stops : isReturn c = true := (Bool.and_eq_true_iff.mp closes).1
              have later : d ∈ rest.take k :=
                member.resolve_left fun same => by simp [← same, ordinary] at stops
              rw [positionAt_cons_of_ends closes, indexOf_cons_of_ends breaks_c]
              exact Nat.succ_lt_succ (ih later)
          | false =>
              -- Only `cut` ends a line here, so the editor's line number is one too small.
              rw [positionAt_cons_of_inside closes]
              split
              · rw [indexOf_cons_of_ends_first breaks_c]
                split <;> omega
              next later =>
                cases place : positionAt isReturn rest (k + 1) with
                | mk line column =>
                    rw [place] at later
                    obtain ⟨line, rfl⟩ := Nat.exists_eq_succ_of_ne_zero later
                    rw [indexOf_cons_of_ends breaks_c]
                    refine Nat.succ_lt_succ (indexOf_lt_of_line_lt column ?_)
                    rw [place]
                    exact Nat.lt_succ_self line
      | false =>
          have later : d ∈ rest.take k := by
            refine member.resolve_left fun same => ?_
            subst same
            have return_d : d ≠ '\r' := fun cr => by simp [cr, isReturn] at ordinary
            simp [endsLine, breaks, return_d] at breaks_c
          have found := ih (i := k + 1) later
          have closes : endsLine isReturn c rest = false := by
            cases closes : endsLine isReturn c rest with
            | false => rfl
            | true => simp [endClass_isReturn.endsLine_isBreak closes] at breaks_c
          rw [positionAt_cons_of_inside closes]
          cases place : positionAt isReturn rest (k + 1) with
          | mk line column =>
              rw [place] at found
              cases line with
              | zero =>
                  rw [if_pos rfl, indexOf_cons_of_inside_first breaks_c, Nat.add_sub_cancel_left]
                  split
                  · exact Nat.succ_pos _
                  · exact Nat.succ_lt_succ found
              | succ line =>
                  rw [if_neg (Nat.succ_ne_zero line), indexOf_cons_of_inside breaks_c]
                  exact Nat.succ_lt_succ found

/-- **An editor's position resolves to its index exactly when no other line end stands
before the last character in front of it.** -/
theorem indexOf_positionAt_isReturn_iff {t : Text} {i : Nat} (bound : i ≤ t.length)
    (outside : insidePair t i = false) :
    indexOf t (positionAt isReturn t i) = i ↔
      ∀ c ∈ t.take (i - 1), isBreak c = true → isReturn c = true := by
  refine ⟨fun found c member breaks => ?_, indexOf_positionAt endClass_isReturn bound outside⟩
  cases ordinary : isReturn c with
  | true => rfl
  | false => exact absurd found (Nat.ne_of_lt (indexOf_positionAt_lt member breaks ordinary))

theorem indexOf_positionAt_isReturn_le {t : Text} {i : Nat} (bound : i ≤ t.length)
    (outside : insidePair t i = false) : indexOf t (positionAt isReturn t i) ≤ i := by
  by_cases plain : ∀ c ∈ t.take (i - 1), isBreak c = true → isReturn c = true
  · exact Nat.le_of_eq ((indexOf_positionAt_isReturn_iff bound outside).mpr plain)
  · simp only [Classical.not_forall, Bool.not_eq_true] at plain
    obtain ⟨c, member, breaks, ordinary⟩ := plain
    exact Nat.le_of_lt (indexOf_positionAt_lt member breaks ordinary)

end Lines

/-! ## The text between two indices -/

namespace Text

theorem not_lt_of_splice_eq {t : Text} {start stop start' stop' : Nat} (bound : start' ≤ t.length)
    (same : ∀ r, t.splice start stop r = t.splice start' stop' r) : ¬ start < start' := by
  intro before
  have here : ∀ c, (t.splice start' stop' [c])[start]? = some c := by
    intro c
    rw [← same [c], Text.splice, List.append_assoc,
      List.getElem?_append_right (List.length_take_le start t)]
    simp [Nat.min_eq_left (show start ≤ t.length by omega)]
  have there : ∀ c, (t.splice start' stop' [c])[start]? = t[start]? := by
    intro c
    rw [Text.splice, List.append_assoc, List.getElem?_append_left (by rw [List.length_take]; omega),
      List.getElem?_take_of_lt before]
  -- The character at `start` would be every inserted character.
  have equal : some 'a' = some 'b' := by
    rw [← here 'a', there 'a', ← there 'b', here 'b']
  exact absurd equal (by decide)

/-- What replacing does to every new text gives away where it replaces. -/
theorem ends_of_splice_eq {t : Text} {start stop start' stop' : Nat} (ordered : start ≤ stop)
    (bound : stop ≤ t.length) (ordered' : start' ≤ stop') (bound' : stop' ≤ t.length)
    (same : ∀ r, t.splice start stop r = t.splice start' stop' r) :
    start = start' ∧ stop = stop' := by
  have not_before := not_lt_of_splice_eq (Nat.le_trans ordered' bound') same
  have not_behind := not_lt_of_splice_eq (Nat.le_trans ordered bound) fun r => (same r).symm
  have lengths := congrArg List.length (same [])
  simp only [Text.splice, List.append_nil, List.length_append, List.length_take,
    List.length_drop] at lengths
  omega

end Text

/-! ## The editor -/

namespace Editor

/-- What is done to the buffer of an editor. -/
inductive Change where
  /-- The whole text is replaced. -/
  | replaceAll (text : Text)
  /-- The text between two indices is replaced. -/
  | replace (start stop : Nat) (text : Text)
  deriving Repr, DecidableEq

/-- Changes that are sent together, and the version they lead to. -/
structure Batch where
  version : Int
  changes : List Change
  deriving Repr, DecidableEq

/-- Two indices that can be selected in a buffer: in order, and none inside a CR LF. -/
def Selectable (buffer : Text) (start stop : Nat) : Prop :=
  start ≤ stop ∧ stop ≤ buffer.length ∧
    insidePair buffer start = false ∧ insidePair buffer stop = false

/-- No line end but CR and LF stands before the last character in front of the index. -/
def PlainBefore (buffer : Text) (stop : Nat) : Prop :=
  ∀ c ∈ buffer.take (stop - 1), isBreak c = true → isReturn c = true

instance (buffer : Text) (start stop : Nat) : Decidable (Selectable buffer start stop) :=
  inferInstanceAs (Decidable (_ ∧ _ ∧ _ ∧ _))

theorem plainBefore_iff_all {buffer : Text} {stop : Nat} :
    ((buffer.take (stop - 1)).all fun c => !isBreak c || isReturn c) = true ↔
      PlainBefore buffer stop := by
  rw [List.all_eq_true]
  refine forall_congr' fun c => forall_congr' fun _ => ?_
  cases isBreak c <;> simp

instance (buffer : Text) (stop : Nat) : Decidable (PlainBefore buffer stop) :=
  decidable_of_decidable_of_iff plainBefore_iff_all

namespace Change

/-- The change can be made to a buffer. -/
def Possible (buffer : Text) : Change → Prop
  | .replaceAll _ => True
  | .replace start stop _ => Selectable buffer start stop

/-- Both sides count the same lines up to the end of the change. -/
def Plain (buffer : Text) : Change → Prop
  | .replaceAll _ => True
  | .replace _ stop _ => PlainBefore buffer stop

instance (buffer : Text) : (c : Change) → Decidable (c.Possible buffer)
  | .replaceAll _ => .isTrue trivial
  | .replace start stop _ => inferInstanceAs (Decidable (Selectable buffer start stop))

instance (buffer : Text) : (c : Change) → Decidable (c.Plain buffer)
  | .replaceAll _ => .isTrue trivial
  | .replace _ stop _ => inferInstanceAs (Decidable (PlainBefore buffer stop))

/-- The buffer after the change. -/
def perform (buffer : Text) : Change → Text
  | .replaceAll text => text
  | .replace start stop text => buffer.take start ++ text ++ buffer.drop stop

/-- What the editor sends: positions on its own lines, which LF, CR and CR LF end. -/
def message (buffer : Text) : Change → Edit
  | .replaceAll text => ⟨none, text⟩
  | .replace start stop text =>
      ⟨some ⟨positionAt isReturn buffer start, positionAt isReturn buffer stop⟩, text⟩

end Change

/-- Every change meets a condition on the buffer it is made to. -/
def Along (condition : Text → Change → Prop) : Text → List Change → Prop
  | _, [] => True
  | buffer, c :: later => condition buffer c ∧ Along condition (c.perform buffer) later

instance decidableAlong (condition : Text → Change → Prop)
    [∀ buffer c, Decidable (condition buffer c)] :
    (buffer : Text) → (changes : List Change) → Decidable (Along condition buffer changes)
  | _, [] => .isTrue trivial
  | buffer, c :: later =>
      have := decidableAlong condition (c.perform buffer) later
      inferInstanceAs (Decidable (_ ∧ _))

/-- The buffer after changes, each made to what the ones before it left. -/
def performAll (buffer : Text) (changes : List Change) : Text :=
  changes.foldl Change.perform buffer

/-- What the editor sends for changes, each with positions in the buffer it is made to. -/
def messages : Text → List Change → List Edit
  | _, [] => []
  | buffer, c :: later => c.message buffer :: messages (c.perform buffer) later

/-- All changes of batches, in order. -/
def changesOf (batches : List Batch) : List Change := batches.flatMap (·.changes)

/-- The version after batches. -/
def versionAfter (version : Int) (batches : List Batch) : Int :=
  (batches.map (·.version)).getLastD version

/-- The store after the batches of an editor have arrived; `none` if the document was not
open for one of them. -/
def deliver (u : Uri) : Store → Text → List Batch → Option Store
  | s, _, [] => some s
  | s, buffer, batch :: later =>
    (s.change? u (messages buffer batch.changes) batch.version).bind fun changed =>
      deliver u changed.2 (performAll buffer batch.changes) later

/-! ## One change -/

theorem apply_message {buffer : Text} {c : Change} (possible : c.Possible buffer)
    (plain : c.Plain buffer) : Edit.apply buffer (c.message buffer) = c.perform buffer := by
  cases c with
  | replaceAll text => rfl
  | replace start stop text =>
      obtain ⟨ordered, bound, outside_start, outside_stop⟩ := possible
      exact apply_positionAt endClass_isReturn ordered bound outside_start outside_stop plain text

/-- **The condition is exact.**  A selection is replaced as the editor replaces it, whatever
the new text, only if it is plain. -/
theorem apply_message_iff {buffer : Text} {start stop : Nat}
    (selectable : Selectable buffer start stop) :
    (∀ text, Edit.apply buffer ((Change.replace start stop text).message buffer) =
      (Change.replace start stop text).perform buffer) ↔ PlainBefore buffer stop := by
  refine ⟨fun same => ?_, fun plain text => apply_message selectable plain⟩
  obtain ⟨ordered, bound, outside_start, outside_stop⟩ := selectable
  have early_start := indexOf_positionAt_isReturn_le (Nat.le_trans ordered bound) outside_start
  have early_stop := indexOf_positionAt_isReturn_le bound outside_stop
  obtain ⟨at_start, at_stop⟩ := Text.ends_of_splice_eq (Nat.le_max_left _ _)
    (Nat.le_trans (Nat.max_le.mpr ⟨Nat.le_trans early_start ordered, early_stop⟩) bound)
    ordered bound same
  refine (indexOf_positionAt_isReturn_iff bound outside_stop).mp ?_
  -- If the end resolved before the start, nothing would be removed, and both are one index.
  by_cases empty : start = stop
  · rwa [empty] at at_start
  · omega

/-! ## Batches and runs -/

theorem along_append (condition : Text → Change → Prop) (buffer : Text)
    (changes later : List Change) :
    Along condition buffer (changes ++ later) ↔
      Along condition buffer changes ∧ Along condition (performAll buffer changes) later := by
  induction changes generalizing buffer with
  | nil => simp [Along, performAll]
  | cons c changes ih => simp [Along, performAll, ih, and_assoc]

theorem performAll_append (buffer : Text) (changes later : List Change) :
    performAll buffer (changes ++ later) = performAll (performAll buffer changes) later :=
  List.foldl_append

theorem applyAll_messages {buffer : Text} {changes : List Change}
    (possible : Along Change.Possible buffer changes) (plain : Along Change.Plain buffer changes) :
    Edit.applyAll buffer (messages buffer changes) = performAll buffer changes := by
  induction changes generalizing buffer with
  | nil => rfl
  | cons c later ih =>
      obtain ⟨possible_here, possible_later⟩ := possible
      obtain ⟨plain_here, plain_later⟩ := plain
      have here := apply_message possible_here plain_here
      simp only [Edit.applyAll, messages, List.foldl_cons, here]
      exact ih possible_later plain_later

/-- A batch that arrives at an open document is applied to its text. -/
theorem change?_of_open {s : Store} {u : Uri} {version : Int} {text : Text}
    (is_open : s.get? u = some ⟨u, version, text⟩) (edits : List Edit) (next : Int) :
    ∃ changed, s.change? u edits next = some changed ∧
      changed.2.get? u = some ⟨u, next, Edit.applyAll text edits⟩ := by
  rw [Store.change?, is_open]
  exact ⟨_, rfl, Store.get?_insert_self s (Document.change ⟨u, version, text⟩ edits next)⟩

/-- A change that arrives alone is applied as it was sent, in step or not. -/
theorem deliver_single {s : Store} {u : Uri} {version : Int} {buffer : Text}
    (in_step : s.get? u = some ⟨u, version, buffer⟩) (next : Int) (c : Change) :
    ∃ after, deliver u s buffer [⟨next, [c]⟩] = some after ∧
      after.get? u = some ⟨u, next, Edit.apply buffer (c.message buffer)⟩ := by
  obtain ⟨changed, arrived, final⟩ := change?_of_open in_step (messages buffer [c]) next
  exact ⟨changed.2, by simp only [deliver, arrived, Option.bind_some], final⟩

theorem deliver_in_step {s : Store} {u : Uri} {version : Int} {buffer : Text}
    {batches : List Batch} (in_step : s.get? u = some ⟨u, version, buffer⟩)
    (possible : Along Change.Possible buffer (changesOf batches))
    (plain : Along Change.Plain buffer (changesOf batches)) :
    ∃ after, deliver u s buffer batches = some after ∧
      after.get? u =
        some ⟨u, versionAfter version batches, performAll buffer (changesOf batches)⟩ := by
  induction batches generalizing s version buffer with
  | nil => exact ⟨s, rfl, in_step⟩
  | cons batch later ih =>
      simp only [changesOf, List.flatMap_cons, along_append] at possible plain
      obtain ⟨changed, arrived, in_step_after⟩ :=
        change?_of_open in_step (messages buffer batch.changes) batch.version
      rw [applyAll_messages possible.1 plain.1] at in_step_after
      obtain ⟨after, delivered, final⟩ := ih in_step_after possible.2 plain.2
      refine ⟨after, by rw [deliver, arrived, Option.bind_some, delivered], ?_⟩
      rw [final]
      simp only [versionAfter, changesOf, List.map_cons, List.getLastD_cons, List.flatMap_cons,
        performAll_append]

/-- **The stored text is the editor's buffer, along every run of plain changes.**  After a
document is opened and the batches of its editor arrive, none is refused, and the store
holds the editor's buffer with the version sent last.  That the changes are plain is no
more than needed: the next selection that is replaced stays in step for every new text
exactly when it is plain. -/
theorem store_mirrors_buffer (s : Store) (u : Uri) (version : Int) (text buffer : Text)
    (batches : List Batch) (possible : Along Change.Possible text (changesOf batches))
    (plain : Along Change.Plain text (changesOf batches))
    (result : performAll text (changesOf batches) = buffer) :
    ∃ after, deliver u (s.insert ⟨u, version, text⟩) text batches = some after ∧
      after.get? u = some ⟨u, versionAfter version batches, buffer⟩ ∧
      ∀ start stop, Selectable buffer start stop →
        ((∀ new next, ∃ last,
          deliver u after buffer [⟨next, [.replace start stop new]⟩] = some last ∧
            last.get? u = some ⟨u, next, (Change.replace start stop new).perform buffer⟩) ↔
          PlainBefore buffer stop) := by
  subst result
  obtain ⟨after, delivered, in_step⟩ :=
    deliver_in_step (Store.get?_insert_self s ⟨u, version, text⟩) possible plain
  refine ⟨after, delivered, in_step, fun start stop selectable => ?_⟩
  rw [← apply_message_iff selectable]
  constructor
  · intro stays new
    obtain ⟨last, arrived, final⟩ := stays new 0
    obtain ⟨last', arrived', final'⟩ := deliver_single in_step 0 (.replace start stop new)
    obtain rfl := Option.some.inj (arrived.symm.trans arrived')
    exact (congrArg Document.text (Option.some.inj (final.symm.trans final'))).symm
  · intro same new next
    rw [← same new]
    exact deliver_single in_step next (.replace start stop new)

/-- Two batches that make and break a CR LF behind a character of two units. -/
theorem store_mirrors_pair :
    Along Change.Possible "😀\r".toList
        (changesOf [⟨2, [.replace 2 2 "\na".toList]⟩, ⟨3, [.replace 3 4 [], .replace 0 1 []]⟩]) ∧
      ∃ after, deliver default (Store.empty.insert ⟨default, 1, "😀\r".toList⟩) "😀\r".toList
          [⟨2, [.replace 2 2 "\na".toList]⟩, ⟨3, [.replace 3 4 [], .replace 0 1 []]⟩] = some after ∧
        after.get? default = some ⟨default, 3, "\r\n".toList⟩ := by
  refine ⟨by decide, ?_⟩
  obtain ⟨after, delivered, final, -⟩ := store_mirrors_buffer .empty default 1 "😀\r".toList
    "\r\n".toList [⟨2, [.replace 2 2 "\na".toList]⟩, ⟨3, [.replace 3 4 [], .replace 0 1 []]⟩]
    (by decide) (by decide) (by decide)
  exact ⟨after, delivered, final⟩

/-- **Behind a VT the two texts part.**  The editor has one line, the store has two, and what
the editor removes from the end of its line stays in the store. -/
theorem vertical_tab_desynchronises :
    Along Change.Possible "a\x0bb".toList (changesOf [⟨2, [.replace 2 3 []]⟩]) ∧
      ((deliver default (Store.empty.insert ⟨default, 1, "a\x0bb".toList⟩) "a\x0bb".toList
          [⟨2, [.replace 2 3 []]⟩]).bind (·.get? default)).map (·.text) = some "a\x0bb".toList ∧
      performAll "a\x0bb".toList (changesOf [⟨2, [.replace 2 3 []]⟩]) = "a\x0b".toList := by
  refine ⟨by decide, by decide, by decide⟩

end Editor

end Kickstart
