/-
# Kickstart.Proofs.Service.History -- a run as it is told afterwards

Which settings are in force for a document follows from the calls alone, without a cache.
A document's periods are what lies between the calls that end one: a change of
configuration, or the closing of the document (`periods`).  In a period the editor is
asked by the first call that needs the document's settings (`asker?`), and its answer
holds to the end of the period; an editor that is not asked per document pushes one value
for all (`pushed`).  `inForce` puts the two together.

All of it is defined on the whole list of calls; the laws here say what one call more
does (`asker?_concat`, `usedPeriods_concat`, `recalled_of_keeps`).
-/
import Kickstart.Proofs.Service.Operations
import Kickstart.Proofs.Settings.Resolver

namespace Kickstart

set_option autoImplicit false

/-- An element more at the end goes to the last piece, or ends it. -/
theorem splitOnP_concat {α : Type} (p : α → Bool) (xs : List α) (x : α) :
    ∃ front last, xs.splitOnP p = front ++ [last] ∧
      (xs ++ [x]).splitOnP p = if p x then front ++ [last, []] else front ++ [last ++ [x]] := by
  induction xs with
  | nil =>
      refine ⟨[], [], rfl, ?_⟩
      simp only [List.nil_append, List.splitOnP_cons_eq_if_modifyHead, List.splitOnP_nil]
      split <;> rfl
  | cons y ys ih =>
      obtain ⟨front, last, pieces, more⟩ := ih
      simp only [List.cons_append, List.splitOnP_cons_eq_if_modifyHead, pieces, more]
      cases p y with
      | true => exact ⟨[] :: front, last, by simp, by cases p x <;> simp⟩
      | false =>
          cases front with
          | nil => exact ⟨[], y :: last, by simp, by cases p x <;> simp⟩
          | cons piece front => exact ⟨(y :: piece) :: front, last, by simp, by cases p x <;> simp⟩

namespace Call

variable {u v : Uri} {past : List Call} {c : Call}

/-! ## A run as it is told afterwards -/

/-- The call opens or closes a document. -/
def opens? (u : Uri) (c : Call) : Option Bool :=
  match c.operation with
  | .notice (.opened d) => if d.uri = u then some true else none
  | .notice (.closed v) => if v = u then some false else none
  | _ => none

/-- The document is open: it was opened, and not closed since. -/
def isOpen (u : Uri) (past : List Call) : Bool := (past.filterMap (opens? u)).getLastD false

/-- The call needs the settings of a document: it is saved, or changed while it is open. -/
def uses (u : Uri) (past : List Call) (c : Call) : Bool :=
  match c.operation with
  | .notice (.saved v) => v = u
  | .notice (.changed v _ _) => v = u && isOpen u past
  | _ => false

/-- The call ends a period of a document: the configuration changes, or it is closed. -/
def cuts (u : Uri) (c : Call) : Bool :=
  match c.operation with
  | .notice (.configured _) => true
  | .notice (.closed v) => v = u
  | _ => false

/-- The configuration that the call pushes. -/
def payload? (c : Call) : Option Json :=
  match c.operation with
  | .notice (.configured payload) => some payload
  | _ => none

/-- Every call with those that came before it. -/
def storyFrom (before : List Call) : List Call → List (List Call × Call)
  | [] => []
  | c :: later => (before, c) :: storyFrom (before ++ [c]) later

/-- The periods of a document: what lies between the calls that end one. -/
def periods (u : Uri) (calls : List Call) : List (List (List Call × Call)) :=
  (storyFrom [] calls).splitOnP fun m => cuts u m.2

/-- How many periods of a document need its settings. -/
def usedPeriods (u : Uri) (calls : List Call) : Nat :=
  (periods u calls).countP fun period => period.any fun m => uses u m.1 m.2

/-- The first call of the present period that needs the settings of a document. -/
def asker? (u : Uri) (calls : List Call) : Option Call :=
  (((periods u calls).getLastD []).find? fun m => uses u m.1 m.2).map Prod.snd

/-- The settings that were pushed last, the defaults if none were. -/
def pushed (calls : List Call) : Settings :=
  match (calls.filterMap payload?).getLast? with
  | some payload => (Settings.ofSectionLossy (payload.member? settingsSection)).1
  | none => .default

/-- The settings in force for a document: what the editor answered to the first call of the
period that needed them, if it is asked per document, and else what was pushed last. -/
def inForce (perResource : Bool) (u : Uri) (calls : List Call) : Settings :=
  if perResource then
    match asker? u calls with
    | some c => (c.surroundings.ask u).settings
    | none => .default
  else pushed calls

/-! ## One call more -/

theorem storyFrom_concat (before past : List Call) (c : Call) :
    storyFrom before (past ++ [c]) = storyFrom before past ++ [(before ++ past, c)] := by
  induction past generalizing before with
  | nil => simp [storyFrom]
  | cons x rest ih => simp [storyFrom, ih]

theorem periods_concat (u : Uri) (past : List Call) (c : Call) :
    ∃ front last, periods u past = front ++ [last] ∧
      periods u (past ++ [c]) =
        if cuts u c then front ++ [last, []] else front ++ [last ++ [(past, c)]] := by
  have told := storyFrom_concat [] past c
  rw [List.nil_append] at told
  unfold periods
  rw [told]
  exact splitOnP_concat (fun m : List Call × Call => cuts u m.2) (storyFrom [] past) (past, c)

theorem isOpen_concat (u : Uri) (past : List Call) (c : Call) :
    isOpen u (past ++ [c]) = (opens? u c).getD (isOpen u past) := by
  unfold isOpen
  rw [List.filterMap_append]
  cases h : opens? u c with
  | none => simp [h]
  | some value => simp [h, List.getLastD_eq_getLast?]

theorem asker?_concat (u : Uri) (past : List Call) (c : Call) :
    asker? u (past ++ [c]) =
      if cuts u c then none else (asker? u past).or (if uses u past c then some c else none) := by
  obtain ⟨front, last, before, after⟩ := periods_concat u past c
  unfold asker?
  rw [before, after]
  cases cuts u c with
  | true => simp [List.getLastD_eq_getLast?]
  | false =>
      simp only [Bool.false_eq_true, if_false, List.getLastD_concat, List.find?_append,
        List.find?_singleton]
      cases List.find? (fun m => uses u m.1 m.2) last with
      | some m => simp
      | none => cases uses u past c <;> simp

theorem not_cuts_of_uses (needs : uses u past c = true) : cuts u c = false := by
  unfold uses at needs
  unfold cuts
  split at needs <;> simp_all

/-- A period counts from the first call that needs the settings on. -/
theorem usedPeriods_concat (u : Uri) (past : List Call) (c : Call) :
    usedPeriods u (past ++ [c]) =
      usedPeriods u past + if uses u past c && (asker? u past).isNone then 1 else 0 := by
  obtain ⟨front, last, before, after⟩ := periods_concat u past c
  have asked : (asker? u past).isNone = !last.any fun m => uses u m.1 m.2 := by
    unfold asker?
    rw [before, List.getLastD_concat, Option.isNone_map, ← Option.not_isSome]
    congr 1
    rw [Bool.eq_iff_iff, List.find?_isSome, List.any_eq_true]
  unfold usedPeriods
  rw [before, after, asked]
  cases needs : uses u past c with
  | true =>
      simp only [not_cuts_of_uses needs, Bool.false_eq_true, if_false, List.countP_append,
        List.countP_singleton, List.any_append, List.any_cons, List.any_nil, needs]
      cases last.any fun m => uses u m.1 m.2 <;> simp
  | false =>
      have same : (last ++ [(past, c)]).any (fun m => uses u m.1 m.2) =
          last.any fun m => uses u m.1 m.2 := by
        rw [List.any_append, List.any_cons, needs, List.any_nil, Bool.or_false, Bool.or_false]
      cases cuts u c with
      | true => simp [List.countP_append, List.countP_cons]
      | false => simp only [Bool.false_eq_true, if_false, List.countP_append, List.countP_singleton, same,
          Bool.false_and, Nat.add_zero]

/-! ## What the past comes to -/

/-- The settings that are known of a document by now. -/
def recalled (perResource : Bool) (u : Uri) (calls : List Call) : Option Settings :=
  if perResource then (asker? u calls).map fun c => (c.surroundings.ask u).settings
  else some (pushed calls)

theorem pushed_concat (past : List Call) (c : Call) :
    pushed (past ++ [c]) =
      match payload? c with
      | some payload => (Settings.ofSectionLossy (payload.member? settingsSection)).1
      | none => pushed past := by
  unfold pushed
  rw [List.filterMap_append]
  cases h : payload? c <;> simp [h]

/-- A period that ends takes with it what was asked for. -/
theorem recalled_of_cuts (ends : cuts u c = true) : recalled true u (past ++ [c]) = none := by
  simp [recalled, asker?_concat, ends]

/-- The first call that needs settings learns them; no other does. -/
theorem recalled_of_keeps {perResource : Bool} (keeps : cuts u c = false)
    (quiet : payload? c = none) :
    recalled perResource u (past ++ [c]) =
      if uses u past c then some ((recalled perResource u past).getD (c.surroundings.ask u).settings)
      else recalled perResource u past := by
  unfold recalled
  cases perResource with
  | false => simp [pushed_concat, quiet]
  | true =>
      simp only [if_true, asker?_concat, keeps, Bool.false_eq_true, if_false]
      cases asker? u past <;> cases uses u past c <;> simp

/-- A call that needs settings gets those in force. -/
theorem inForce_of_uses {perResource : Bool} (needs : uses u past c = true) :
    inForce perResource u (past ++ [c]) =
      (recalled perResource u past).getD (c.surroundings.ask u).settings := by
  unfold inForce recalled
  cases perResource with
  | true =>
      simp only [if_true, asker?_concat, not_cuts_of_uses needs, Bool.false_eq_true, if_false, needs]
      cases asker? u past <;> rfl
  | false =>
      have quiet : payload? c = none := by
        unfold uses at needs
        unfold payload?
        split at needs <;> simp_all
      simp [pushed_concat, quiet]

/-- How many queries for a document the call makes. -/
def asked (perResource : Bool) (u : Uri) (past : List Call) (c : Call) : Nat :=
  if perResource && uses u past c && (asker? u past).isNone then 1 else 0

/-- How many queries for a document a run makes. -/
def queriesDue (perResource : Bool) (u : Uri) (calls : List Call) : Nat :=
  if perResource then usedPeriods u calls else 0

theorem queriesDue_concat (perResource : Bool) (u : Uri) (past : List Call) (c : Call) :
    queriesDue perResource u (past ++ [c]) =
      queriesDue perResource u past + asked perResource u past c := by
  cases perResource <;> simp [queriesDue, asked, usedPeriods_concat]

/-- The call has no part in the settings of any document. -/
structure Neutral (past : List Call) (c : Call) : Prop where
  cuts : ∀ u, c.cuts u = false
  uses : ∀ u, uses u past c = false
  payload : c.payload? = none

theorem Neutral.asked {perResource : Bool} (neutral : Neutral past c) (u : Uri) :
    asked perResource u past c = 0 := by
  simp [Call.asked, neutral.uses]

end Call

end Kickstart
