/-
# Kickstart.Proofs.Service.Handshake -- the first handshake fixes everything

A service is dormant while it holds no document and has no session to check documents in
(`Service.Dormant`).  It is dormant before the first handshake, and it stays so for good if
there was no validator then: one call to a dormant service shows nothing and touches no
file (`Dormant.perform`), and so does every run of them (`Dormant.performAll`).

Only the first handshake counts (`fixed?_perform`).  Notices before it and handshakes after
it leave the service as it is, so they can be left out of a run (`Call.essential`) and
nothing changes: not the state in the end, and not what any other call shows or is answered
(`performAll_essential`).
-/
import Kickstart.Proofs.Service.Triggers
import Kickstart.Proofs.Settings.Resolver

namespace Kickstart

set_option autoImplicit false

/-! ## Calls and what they come to -/

namespace Call

/-- The call is a handshake. -/
def isHandshake (c : Call) : Bool :=
  match c.operation with
  | .handshake _ => true
  | _ => false

/-- What a handshake finds out: what the editor can do, and whether there is a validator. -/
def found? (c : Call) : Option (Features × Bool) :=
  match c.operation with
  | .handshake features => some (features, c.surroundings.validator.available)
  | _ => none

theorem isSome_found? (c : Call) : c.found?.isSome = c.isHandshake := by
  unfold found? isHandshake
  cases c.operation <;> rfl

/-- The files after what others do to them by the call. -/
def touch (fs : Files) (c : Call) : Files :=
  match c.operation with
  | .put place entry => fs.put place entry
  | .remove place => fs.removeTree place
  | _ => fs

/-- What counts of a run: no notices before the first handshake, and no handshakes after it.
It is taken of any list that goes along with calls. -/
def essential {α : Type} (call : α → Call) : List α → List α
  | [] => []
  | x :: later =>
    match (call x).operation with
    | .handshake _ => x :: later.filter fun y => !(call y).isHandshake
    | .notice _ => essential call later
    | _ => x :: essential call later

end Call

/-- What a call is answered with. -/
inductive Answer where
  | nothing
  | capabilities (announced : Capabilities)
  | offers (offered : List Offer)
  deriving DecidableEq

/-- A call of a run, its answer, and what happened. -/
structure Exchange where
  call : Call
  answer : Answer
  events : List Event

namespace Service

variable {sur : Surroundings} {s : Service} {n : Notice} {c : Call}

/-- The answer to a call. -/
def answer (s : Service) (c : Call) : Answer :=
  match c.operation with
  | .handshake features => .capabilities (s.handshake c.surroundings.validator features).1
  | .complete u p => .offers (s.complete u p)
  | _ => .nothing

/-- A run, call by call. -/
def exchanges (s : Service) : List Call → List Exchange
  | [] => []
  | c :: later => ⟨c, s.answer c, (s.perform c).2⟩ :: (s.perform c).1.exchanges later

/-! ## What the handshake fixes -/

/-- The first handshake fixes what it finds, and nothing else changes it. -/
theorem fixed?_perform (s : Service) (c : Call) :
    (s.perform c).1.fixed? = s.fixed?.or c.found? := by
  obtain ⟨sur, operation⟩ := c
  cases operation with
  | handshake features =>
      cases shaken : s.session <;> simp [perform, handshake, fixed?, Call.found?, shaken]
  | notice n =>
      simp only [perform, Call.found?, Option.or_none, handle_eq]
      exact fixed?_accept sur s n
  | complete u p => simp [perform, Call.found?]
  | put place entry => simp [perform, Call.found?, fixed?]
  | remove place => simp [perform, Call.found?, fixed?]

/-- A session begins with the first handshake and never ends. -/
theorem isSome_session_perform (s : Service) (c : Call) :
    (s.perform c).1.session.isSome = (s.session.isSome || c.isHandshake) := by
  have fixed := congrArg Option.isSome (fixed?_perform s c)
  rw [Option.isSome_or, Call.isSome_found?] at fixed
  simpa only [fixed?, Option.isSome_map] using fixed

/-! ## Dormant services -/

/-- Nothing is stored, and there is no session to check documents in. -/
structure Dormant (s : Service) : Prop where
  store : s.store = .empty
  inactive : s.active?.isSome = false

theorem dormant_start (files : Files) : (start files).Dormant := ⟨rfl, rfl⟩

/-- A dormant service accepts no notice: nothing is checked, and nothing is asked. -/
theorem Dormant.accept (dormant : s.Dormant) (sur : Surroundings) (n : Notice) :
    (s.accept sur n).1.Dormant ∧ (s.accept sur n).2.2 = [] ∧
      Event.queries (s.accept sur n).2.1 = [] := by
  have still : (s.accept sur n).1.active?.isSome = false :=
    (active?_accept sur s n).trans dormant.inactive
  cases n with
  | closed u =>
      refine ⟨⟨?_, still⟩, rfl, rfl⟩
      simp only [Service.accept, receive, dormant.store]
      rfl
  | configured payload =>
      refine ⟨⟨?_, still⟩, ?_, ?_⟩
      · simp only [Service.accept, receive]
        split <;> exact dormant.store
      · simp only [Service.accept, dormant.inactive]
        rfl
      · simp only [Service.accept, receive]
        split
        · rfl
        · simp only [Resolver.configurationChanged]
          split
          · exact Event.queries_warned _
          · rfl
  | _ =>
      simp only [Service.accept, dormant.inactive]
      exact ⟨dormant, rfl, rfl⟩

/-- Before any handshake a notice is not even noticed. -/
theorem Dormant.accept_eq (dormant : s.Dormant) (unshaken : s.session = none) (sur : Surroundings)
    (n : Notice) : s.accept sur n = (s, [], []) := by
  obtain ⟨store, session, files⟩ := s
  obtain ⟨rfl, inactive⟩ := dormant
  simp only at unshaken
  subst unshaken
  cases n <;> rfl

theorem Dormant.handle_eq (dormant : s.Dormant) (unshaken : s.session = none) (sur : Surroundings)
    (n : Notice) : s.handle sur n = (s, []) := by
  rw [Service.handle_eq, dormant.accept_eq unshaken]
  rfl

/-- A call to a dormant service shows nothing of it, touches no file, and leaves it dormant,
unless it is the first handshake and finds a validator. -/
theorem Dormant.perform (dormant : s.Dormant)
    (blind : s.session = none → c.isHandshake = true → c.surroundings.validator.available = false) :
    (s.perform c).1.Dormant ∧ (s.perform c).1.files = c.touch s.files ∧
      Event.Quiet (s.perform c).2 ∧ Event.queries (s.perform c).2 = [] := by
  obtain ⟨sur, operation⟩ := c
  cases operation with
  | handshake features =>
      simp only [Service.perform, handshake]
      cases shaken : s.session with
      | some session => exact ⟨dormant, rfl, ⟨rfl, rfl⟩, rfl⟩
      | none =>
          refine ⟨⟨dormant.store, ?_⟩, rfl, ⟨rfl, rfl⟩, rfl⟩
          rw [active?_isSome]
          exact blind shaken rfl
  | notice n =>
      obtain ⟨still, unchecked, unasked⟩ := dormant.accept sur n
      refine ⟨⟨?_, ?_⟩, ?_, ⟨?_, ?_⟩, ?_⟩
      · simp only [Service.perform, store_handle]
        exact still.store
      · simp only [Service.perform, Service.handle_eq]
        exact still.inactive
      · simp only [Service.perform, Service.handle_eq, unchecked]
        rfl
      · simp only [Service.perform, runs_handle, unchecked]
        rfl
      · simp only [Service.perform, publications_handle, unchecked]
        rfl
      · simp only [Service.perform, queries_handle]
        exact unasked
  | complete u p => exact ⟨dormant, rfl, ⟨rfl, rfl⟩, rfl⟩
  | put place entry => exact ⟨⟨dormant.store, dormant.inactive⟩, rfl, ⟨rfl, rfl⟩, rfl⟩
  | remove place => exact ⟨⟨dormant.store, dormant.inactive⟩, rfl, ⟨rfl, rfl⟩, rfl⟩

/-- A service stays dormant until a first handshake that finds a validator. -/
theorem Dormant.performAll {calls : List Call} (dormant : s.Dormant)
    (blind : s.session = none → ∀ c, calls.find? Call.isHandshake = some c →
      c.surroundings.validator.available = false) :
    (s.performAll calls).1.Dormant ∧ (s.performAll calls).1.files = calls.foldl Call.touch s.files ∧
      Event.Quiet (s.performAll calls).2 ∧ Event.queries (s.performAll calls).2 = [] := by
  induction calls generalizing s with
  | nil => exact ⟨dormant, rfl, ⟨rfl, rfl⟩, rfl⟩
  | cons c later ih =>
      obtain ⟨still, files, quiet, unasked⟩ := dormant.perform (c := c) fun unshaken shakes =>
        blind unshaken c (List.find?_cons_of_pos shakes)
      have rest : (s.perform c).1.session = none → ∀ d, later.find? Call.isHandshake = some d →
          d.surroundings.validator.available = false := by
        intro unshaken d first
        -- no session yet, so the call was no handshake and the next one is the first
        have before := isSome_session_perform s c
        rw [unshaken, Option.isSome_none, eq_comm, Bool.or_eq_false_iff] at before
        refine blind (by simpa using before.1) d ?_
        rw [List.find?_cons_of_neg (by simp [before.2]), first]
      obtain ⟨after, files_after, quiet_after, unasked_after⟩ := ih still rest
      refine ⟨after, ?_, quiet.append quiet_after, ?_⟩
      · rw [Service.performAll, List.foldl_cons, ← files]
        exact files_after
      · rw [Service.performAll, Event.queries_append, unasked]
        exact unasked_after

/-! ## What can be left out -/

/-- In a session handshakes can be left out. -/
theorem performAll_filter (shaken : s.session.isSome = true) (calls : List Call) :
    (s.performAll (calls.filter fun c => !c.isHandshake)).1 = (s.performAll calls).1 ∧
      s.exchanges (calls.filter fun c => !c.isHandshake) =
        (s.exchanges calls).filter fun x => !x.call.isHandshake := by
  induction calls generalizing s with
  | nil => exact ⟨rfl, rfl⟩
  | cons c later ih =>
      have still : (s.perform c).1.session.isSome = true := by
        rw [isSome_session_perform, shaken, Bool.true_or]
      obtain ⟨state, shown⟩ := ih still
      cases shakes : c.isHandshake with
      | true =>
          have ignored : (s.perform c).1 = s := by
            obtain ⟨sur, operation⟩ := c
            obtain ⟨session, holds⟩ := Option.isSome_iff_exists.mp shaken
            cases operation with
            | handshake features => simp only [perform, handshake, holds]
            | _ => cases shakes
          rw [ignored] at state shown
          simp only [exchanges, performAll, ignored, shakes, List.filter_cons, Bool.not_true,
            Bool.false_eq_true, if_false]
          exact ⟨state, shown⟩
      | false =>
          simp only [exchanges, performAll, shakes, List.filter_cons, Bool.not_false, if_true]
          exact ⟨state, by rw [shown]⟩

/-- Before the first handshake notices can be left out, and after it handshakes. -/
theorem performAll_essential (dormant : s.Dormant) (unshaken : s.session = none)
    (calls : List Call) :
    (s.performAll (Call.essential id calls)).1 = (s.performAll calls).1 ∧
      s.exchanges (Call.essential id calls) = Call.essential Exchange.call (s.exchanges calls) := by
  induction calls generalizing s with
  | nil => exact ⟨rfl, rfl⟩
  | cons c later ih =>
      obtain ⟨sur, operation⟩ := c
      have next := ih (s := (s.perform ⟨sur, operation⟩).1)
      cases operation with
      | handshake features =>
          have shaken : (s.perform ⟨sur, .handshake features⟩).1.session.isSome = true := by
            rw [isSome_session_perform, Call.isHandshake, Bool.or_true]
          obtain ⟨state, shown⟩ := performAll_filter shaken later
          simp only [Call.essential, id, exchanges, performAll]
          exact ⟨state, by rw [shown]⟩
      | notice n =>
          have ignored : (s.perform ⟨sur, .notice n⟩).1 = s :=
            congrArg Prod.fst (dormant.handle_eq unshaken sur n)
          simp only [Call.essential, id, exchanges, performAll, ignored]
          exact ih dormant unshaken
      | _ =>
          -- the store and the session are as they were, and the call counts
          obtain ⟨state, shown⟩ := next ⟨dormant.store, dormant.inactive⟩ unshaken
          simp only [Call.essential, id, exchanges, performAll]
          exact ⟨state, congrArg _ shown⟩

/-- Of every run:

1. unless its first handshake finds a validator, nothing is stored, published, run or
   asked, and the files are what others have made of them, whatever notices come and
   whatever later handshakes find;
2. without the notices before the first handshake and the handshakes after it, the run ends
   in the same state, and every call that is left shows the same events and gets the same
   answer. -/
theorem first_handshake_fixes_everything (files : Files) (calls : List Call) :
    ((∀ c, calls.find? Call.isHandshake = some c → c.surroundings.validator.available = false) →
      let run := (start files).performAll calls
      run.1.store = .empty ∧ Event.publications run.2 = [] ∧ Event.runs run.2 = [] ∧
        Event.queries run.2 = [] ∧ run.1.files = calls.foldl Call.touch files) ∧
    ((start files).performAll (Call.essential id calls)).1 = ((start files).performAll calls).1 ∧
    (start files).exchanges (Call.essential id calls) =
      Call.essential Exchange.call ((start files).exchanges calls) := by
  refine ⟨fun blind => ?_, performAll_essential (dormant_start files) rfl calls⟩
  obtain ⟨dormant, untouched, quiet, unasked⟩ := (dormant_start files).performAll fun _ => blind
  exact ⟨dormant.store, quiet.2, quiet.1, unasked, untouched⟩

end Service

end Kickstart
