/-
# Kickstart.Proofs.Service.Operations -- runs of a service, one operation after the other

A run is a list of calls, each handled to its end before the next (`performAll`), each
with surroundings of its own: validators, answers and failures may change from call to
call, and others may change the files in between.  The store of a service that was
reached by a run holds one document per URI (`distinct_performAll`).

`accept` says what a notice comes to once the settings that matter are known: the state,
and the targets that are checked one after the other.  Handling a notice is to accept it
and to check its targets (`handle_eq`).  What the handshake fixed (`fixed?`) is the same
after every notice (`fixed?_accept`).
-/
import Kickstart.Proofs.Document.Store
import Kickstart.Proofs.Service.Checks

namespace Kickstart

set_option autoImplicit false

/-- What is asked of a service, or done to its files by others. -/
inductive Operation where
  /-- A handshake. -/
  | handshake (features : Features)
  /-- A notice. -/
  | notice (n : Notice)
  /-- A request for completions. -/
  | complete (uri : Uri) (position : Position)
  /-- Others put something at a place. -/
  | put (place : Place) (entry : Entry)
  /-- Others remove a place with all that lies under it. -/
  | remove (place : Place)

/-- An operation and the surroundings it meets. -/
structure Call where
  surroundings : Surroundings
  operation : Operation

namespace Service

variable {sur : Surroundings} {s : Service} {n : Notice}

/-- One call: the state after it and what happened. -/
def perform (s : Service) (c : Call) : Service × List Event :=
  match c.operation with
  | .handshake features =>
    let (_, events, s) := s.handshake c.surroundings.validator features
    (s, events)
  | .notice n => s.handle c.surroundings n
  | .complete _ _ => (s, [])
  | .put place entry => ({ s with files := s.files.put place entry }, [])
  | .remove place => ({ s with files := s.files.removeTree place }, [])

/-- Calls one after the other. -/
def performAll (s : Service) : List Call → Service × List Event
  | [] => (s, [])
  | c :: later =>
    (((s.perform c).1.performAll later).1, (s.perform c).2 ++ ((s.perform c).1.performAll later).2)

theorem performAll_append (s : Service) (calls later : List Call) :
    s.performAll (calls ++ later) =
      (((s.performAll calls).1.performAll later).1,
        (s.performAll calls).2 ++ ((s.performAll calls).1.performAll later).2) := by
  induction calls generalizing s with
  | nil => rfl
  | cons c calls ih => simp [performAll, ih]

/-! ## Accepting a notice -/

/-- What a notice comes to once the settings that matter are known: the state, what has
happened by then, and what is to be checked. -/
def accept (sur : Surroundings) (s : Service) : Notice → Service × List Event × List Target
  | .opened d =>
    if s.active?.isSome then ({ s with store := s.store.insert d }, [], [.buffer d])
    else (s, [], [])
  | .changed u version edits =>
    if s.active?.isSome then
      match s.store.change? u edits version with
      | some (d, store) =>
        let (settings, events, s) := Work.learnSettings sur u { s with store }
        (s, events, if settings.lintOnChange then [.buffer d] else [])
      | none => (s, [.warned (.unknownDocument u)], [])
    else (s, [], [])
  | .saved u =>
    if s.active?.isSome then
      let (settings, events, s) := Work.learnSettings sur u s
      (s, events, [if settings.lintOnSave then .file u else .nothing u])
    else (s, [], [])
  | .closed u => ((s.receive (.closed u)).service, [], [])
  | .filesChanged changes =>
    if s.active?.isSome then
      (s, [], (changes.filter fun c => !c.isRemoval).map fun c => .file c.uri)
    else (s, [], [])
  | .configured payload =>
    let received := s.receive (.configured payload)
    (received.service, received.events,
      if s.active?.isSome then s.store.documents.map .buffer else [])

theorem active?_isSome : s.active?.isSome = s.session.any (·.validating) := by
  cases h : s.session <;> simp [active?, h, Option.isSome_filter]

theorem files_receive_configured (s : Service) (payload : Json) :
    (s.receive (.configured payload)).service.files = s.files := by
  simp only [receive]
  split <;> rfl

/-- A change of configuration leaves every open buffer to be checked. -/
theorem left_receive_configured (s : Service) (payload : Json) :
    (s.receive (.configured payload)).left =
      (if s.active?.isSome then s.store.documents.map Target.buffer else []).map Target.work := by
  rw [active?_isSome]
  simp only [receive]
  cases s.session with
  | none => rfl
  | some session => cases on : session.validating <;> simp [on, Target.work]

theorem files_learnSettings (sur : Surroundings) (u : Uri) (s : Service) :
    (Work.learnSettings sur u s).2.2.files = s.files := by
  unfold Work.learnSettings
  split <;> rfl

theorem store_learnSettings (sur : Surroundings) (u : Uri) (s : Service) :
    (Work.learnSettings sur u s).2.2.store = s.store := by
  unfold Work.learnSettings
  split <;> rfl

/-- Handling a notice is to accept it and to check its targets one after the other. -/
theorem handle_eq (sur : Surroundings) (s : Service) (n : Notice) :
    s.handle sur n =
      let accepted := s.accept sur n
      let checks := Target.checkAll sur s.files accepted.2.2
      ({ accepted.1 with files := Target.filesAfter s.files checks },
        accepted.2.1 ++ checks.flatMap fun tc => tc.1.events accepted.1 tc.2) := by
  -- the works that a notice leaves are those of its targets
  have checked {t : Service} {works : List Work} (events : List Event) (ts : List Target)
      (same : t.files = s.files) (leaves : works = ts.map Target.work) :
      ((t.finish sur works).1, events ++ (t.finish sur works).2) =
        ({ t with files := Target.filesAfter s.files (Target.checkAll sur s.files ts) },
          events ++ (Target.checkAll sur s.files ts).flatMap fun tc => tc.1.events t tc.2) := by
    rw [leaves, finish_targets, same]
  rw [handle_eq_finish]
  by_cases on : s.active?.isSome
  · cases n with
    | opened d =>
        simp only [receive, accept, on, if_true]
        exact checked [] [.buffer d] rfl rfl
    | changed u version edits =>
        simp only [receive, accept, on, if_true]
        cases changed : s.store.change? u edits version with
        | none => rfl
        | some result =>
            obtain ⟨d, store⟩ := result
            obtain ⟨rfl, -⟩ := Store.change?_eq_some changed
            have same := files_learnSettings sur d.uri { s with store }
            simp only [finish_afterChange, List.nil_append]
            split
            · exact checked _ [.buffer d] same rfl
            · exact checked _ [] same rfl
    | saved u =>
        simp only [receive, accept, on, if_true, finish_afterSave, List.nil_append]
        have same := files_learnSettings sur u s
        split
        · exact checked _ [.file u] same rfl
        · exact checked _ [.nothing u] same rfl
    | closed u => rfl
    | filesChanged changes =>
        simp only [receive, accept, on, if_true]
        exact checked [] _ rfl (by simp [Target.work])
    | configured payload =>
        exact checked _ _ (files_receive_configured s payload) (left_receive_configured s payload)
  · cases n with
    | closed u => rfl
    | configured payload =>
        exact checked _ _ (files_receive_configured s payload) (left_receive_configured s payload)
    | _ =>
        simp only [receive, accept, on]
        rfl

/-! ## What runs keep -/

/-- What the handshake fixed: what the editor can do, and whether documents are checked. -/
def fixed? (s : Service) : Option (Features × Bool) :=
  s.session.map fun session => (session.features, session.validating)

theorem active?_isSome_eq_fixed? : s.active?.isSome = s.fixed?.any (·.2) := by
  rw [active?_isSome, fixed?, Option.any_map]

theorem fixed?_learnSettings (sur : Surroundings) (u : Uri) (s : Service) :
    (Work.learnSettings sur u s).2.2.fixed? = s.fixed? := by
  unfold Work.learnSettings
  cases shaken : s.session <;> simp [fixed?, shaken]

/-- No notice changes what the handshake fixed. -/
theorem fixed?_accept (sur : Surroundings) (s : Service) (n : Notice) :
    (s.accept sur n).1.fixed? = s.fixed? := by
  cases n with
  | opened d =>
      simp only [accept]
      split <;> rfl
  | changed u version edits =>
      simp only [accept]
      split
      · split
        · exact fixed?_learnSettings sur u _
        · rfl
      · rfl
  | saved u =>
      simp only [accept]
      split
      · exact fixed?_learnSettings sur u s
      · rfl
  | closed u => cases shaken : s.session <;> simp [accept, receive, fixed?, shaken]
  | filesChanged changes =>
      simp only [accept]
      split <;> rfl
  | configured payload => cases shaken : s.session <;> simp [accept, receive, fixed?, shaken]

/-- Whether documents are checked does not change with a notice. -/
theorem active?_accept (sur : Surroundings) (s : Service) (n : Notice) :
    (s.accept sur n).1.active?.isSome = s.active?.isSome := by
  rw [active?_isSome_eq_fixed?, fixed?_accept, ← active?_isSome_eq_fixed?]

/-- Checks leave the store to what the notice made of it. -/
theorem store_handle (sur : Surroundings) (s : Service) (n : Notice) :
    (s.handle sur n).1.store = (s.accept sur n).1.store := by
  rw [handle_eq]

theorem distinct_accept (sur : Surroundings) (n : Notice) (distinct : s.store.Distinct) :
    (s.accept sur n).1.store.Distinct := by
  cases n with
  | opened d =>
      simp only [accept]
      split
      · exact distinct.insert d
      · exact distinct
  | changed u version edits =>
      simp only [accept]
      split
      · split
        · rename_i d store changed
          rw [store_learnSettings]
          obtain ⟨-, -, rfl, -⟩ := Store.change?_eq_some changed
          exact distinct.insert d
        · exact distinct
      · exact distinct
  | saved u =>
      simp only [accept]
      split
      · rw [store_learnSettings]
        exact distinct
      · exact distinct
  | closed u => exact distinct.erase u
  | filesChanged changes =>
      simp only [accept]
      split <;> exact distinct
  | configured payload =>
      simp only [accept, receive]
      split <;> exact distinct

theorem distinct_perform (c : Call) (distinct : s.store.Distinct) :
    (s.perform c).1.store.Distinct := by
  obtain ⟨sur, operation⟩ := c
  cases operation with
  | handshake features =>
      simp only [perform, handshake]
      split <;> exact distinct
  | notice n =>
      simp only [perform, store_handle]
      exact distinct_accept sur n distinct
  | complete u p => exact distinct
  | put place entry => exact distinct
  | remove place => exact distinct

/-- A service holds one document per URI, whatever has happened. -/
theorem distinct_performAll (calls : List Call) (distinct : s.store.Distinct) :
    (s.performAll calls).1.store.Distinct := by
  induction calls generalizing s with
  | nil => exact distinct
  | cons c later ih => exact ih (distinct_perform c distinct)

end Service

end Kickstart
