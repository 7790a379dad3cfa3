/-
# Kickstart.Proofs.Service.Announcement -- what handshakes announce and what the session keeps

Every handshake is answered with what it finds itself, but the session is what the first one
found, whatever comes later (`fixed?_performAll`).  So what is announced holds as long as the
validator is there or not there as at the first handshake, and the editor has workspace folders
or has none as it said then; nothing else that an editor says shows in the answer
(`Capabilities.of_eq_iff`).

Documents are taken in by a session that found a validator and by no other (`admits_iff`).
Whether they are announced rightly hangs on the validator alone.  Where it has gone since, or
has come, the answer and the session part: `repeated_handshake_misannounces`.
-/
import Kickstart.Proofs.Service.Handshake

namespace Kickstart

set_option autoImplicit false

/-- What is announced shows of an editor its folders, and the validator. -/
theorem Capabilities.of_eq_iff {features other : Features} {validating checked : Bool} :
    Capabilities.of features validating = .of other checked ↔
      features.workspaceFolders = other.workspaceFolders ∧ validating = checked := by
  simp only [Capabilities.of, Capabilities.mk.injEq]
  exact and_comm

namespace Service

variable {sur : Surroundings} {s : Service} {d : Document}

/-! ## What a run fixes -/

/-- **The first handshake of a run fixes the session**, if there was none before. -/
theorem fixed?_performAll (s : Service) (calls : List Call) :
    (s.performAll calls).1.fixed? = s.fixed?.or (calls.findSome? Call.found?) := by
  induction calls generalizing s with
  | nil => simp [performAll]
  | cons c later ih =>
      rw [performAll, ih, fixed?_perform, Option.or_assoc, List.findSome?_cons]
      cases c.found? <;> rfl

/-- After a handshake the session is what the first one found, this one if there was none. -/
theorem fixed?_after_handshake (files : Files) (past : List Call) {c : Call}
    {found : Features × Bool} (finds : c.found? = some found) (later : List Call) :
    ((start files).performAll (past ++ c :: later)).1.fixed? =
      some ((past.findSome? Call.found?).getD found) := by
  rw [fixed?_performAll, List.findSome?_append, List.findSome?_cons, finds]
  cases past.findSome? Call.found? <;> rfl

/-! ## Opened documents -/

/-- An opened document is stored and validated: it is held as it was opened, and what is run
and published is what one validation of it takes and comes to. -/
structure Admits (s : Service) (sur : Surroundings) (d : Document) : Prop where
  stored : (s.handle sur (.opened d)).1.store.get? d.uri = some d
  runs : Event.runs (s.handle sur (.opened d)).2 = ((Target.buffer d).check sur s.files).runs
  published : Event.publications (s.handle sur (.opened d)).2 =
    [(Target.buffer d).publication s ((Target.buffer d).check sur s.files).verdict]

theorem admits_iff : s.Admits sur d ↔ s.active?.isSome = true := by
  constructor
  · intro admits
    cases active : s.active?.isSome with
    | true => rfl
    | false =>
        have published := admits.published
        simp only [publications_handle, accept, active] at published
        cases published
  · intro active
    refine ⟨?_, ?_, ?_⟩
    · simp only [store_handle, accept, active, if_true]
      exact Store.get?_insert_self s.store d
    · simp only [runs_handle, accept, active, if_true, Target.checkAll, List.flatMap_cons,
        List.flatMap_nil, List.append_nil]
    · simp only [publications_handle, accept, active, if_true, Target.checkAll, List.map_cons,
        List.map_nil]

/-! ## What is announced -/

/-- **What a handshake announces holds exactly if it finds what the first one found.**  Of every
handshake in every run:

1. the session after it is the one that the first handshake fixed, this one if it is the first;
2. the answer is what this session offers exactly if the editor's folders and the validator are
   as the first handshake found them, which holds of the first handshake itself;
3. documents are announced exactly if a document that is opened later, whatever else comes in
   between, is stored and validated, provided that the validator is as it was at the first
   handshake, and only then. -/
theorem announcement_holds_iff_as_first (files : Files) (past : List Call) (sur : Surroundings)
    (features : Features) :
    let s := ((start files).performAll past).1
    let c : Call := ⟨sur, .handshake features⟩
    ∃ announced session,
      s.answer c = .capabilities announced ∧
      (s.perform c).1.session = some session ∧
      (past ++ [c]).findSome? Call.found? = some (session.features, session.validating) ∧
      (announced = .of session.features session.validating ↔
        ∀ found, past.findSome? Call.found? = some found →
          features.workspaceFolders = found.1.workspaceFolders ∧
            sur.validator.available = found.2) ∧
      ∀ (later : List Call) (sur' : Surroundings) (d : Document),
        let next := ((start files).performAll (past ++ c :: later)).1
        (announced.documents = true ↔ next.Admits sur' d) ↔
          ∀ found, past.findSome? Call.found? = some found → sur.validator.available = found.2 := by
  intro s c
  have finds : c.found? = some (features, sur.validator.available) := rfl
  -- the session after the handshake, and after whatever follows it
  have fixed := fixed?_after_handshake files past finds
  have here : (s.perform c).1.fixed? =
      some ((past.findSome? Call.found?).getD (features, sur.validator.available)) := by
    have now := fixed []
    rw [performAll_append] at now
    exact now
  obtain ⟨session, holds, same⟩ := Option.map_eq_some_iff.mp here
  refine ⟨.of features sur.validator.available, session, ?_, holds, ?_, ?_, ?_⟩
  · simp only [answer, c, handshake]
    split <;> rfl
  · rw [same, List.findSome?_append, List.findSome?_singleton, finds]
    cases past.findSome? Call.found? <;> rfl
  · rw [Capabilities.of_eq_iff, (Prod.mk.inj same).1, (Prod.mk.inj same).2]
    cases past.findSome? Call.found? <;> simp
  · intro later sur' d next
    rw [admits_iff, active?_isSome_eq_fixed?, fixed later]
    cases past.findSome? Call.found? <;> simp [Capabilities.of]

/-- **A repeated handshake announces what does not hold.**  Where the validator has gone since
the first one, documents are not announced, and yet an opened one is stored and validated;
where it has come, they are announced, and none is. -/
theorem repeated_handshake_misannounces :
    let there : Surroundings :=
      ⟨⟨true, fun _ => .plain (.ok none)⟩, fun _ => .ok none, .ofPlace [], .none⟩
    let gone : Surroundings := { there with validator := ⟨false, fun _ => .plain (.ok none)⟩ }
    let document : Document := ⟨⟨"file", some ⟨"", "", none⟩, .rooted ["a.ks"], none, none⟩, 1, []⟩
    let offered (s : Service) : Option Capabilities :=
      s.session.map fun session => .of session.features session.validating
    let after (first : Surroundings) : Service :=
      ((start default).performAll [⟨first, .handshake .none⟩]).1
    ((after there).answer ⟨gone, .handshake .none⟩ = .capabilities ⟨false, false⟩ ∧
      offered ((after there).perform ⟨gone, .handshake .none⟩).1 = some ⟨true, false⟩ ∧
      ((after there).perform ⟨gone, .handshake .none⟩).1.Admits there document) ∧
    (after gone).answer ⟨there, .handshake .none⟩ = .capabilities ⟨true, false⟩ ∧
      offered ((after gone).perform ⟨there, .handshake .none⟩).1 = some ⟨false, false⟩ ∧
      ¬ ((after gone).perform ⟨there, .handshake .none⟩).1.Admits there document := by
  refine ⟨⟨rfl, rfl, admits_iff.mpr rfl⟩, rfl, rfl, fun admits => ?_⟩
  have active := admits_iff.mp admits
  cases active

end Service

end Kickstart
