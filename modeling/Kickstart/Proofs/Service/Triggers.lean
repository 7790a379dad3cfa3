/-
# Kickstart.Proofs.Service.Triggers -- what each notice publishes

A notice is accepted and its targets are checked (`handle_eq`), and a target is published
once, whatever its check came to.  So the publications of a notice are read off its
targets: which documents and versions they are for (`headings_handle`), what they hold
(`publications_handle`) and which runs they took (`runs_handle`).

Failures stay where they happen.  What is accepted depends on the editor's answers only
(`accept_files`), so documents and settings come out the same however the checks go.
-/
import Kickstart.Proofs.Service.Operations

namespace Kickstart

set_option autoImplicit false

/-- The document and the version that a publication is for. -/
def Publication.heading (p : Publication) : Uri × Option Int := (p.uri, p.version)

/-- The document and the version that a target stands for. -/
def Target.heading (t : Target) : Uri × Option Int := (t.uri, t.version)

namespace Service

variable {sur sur' : Surroundings} {s : Service} {n : Notice}

/-! ## Before the checks -/

theorem quiet_learnSettings (sur : Surroundings) (u : Uri) (s : Service) :
    Event.Quiet (Work.learnSettings sur u s).2.1 := by
  unfold Work.learnSettings
  split
  · exact ⟨rfl, rfl⟩
  · rename_i session _
    simp only
    unfold Resolver.resolve
    split
    · exact ⟨rfl, rfl⟩
    · simp only
      refine Event.Quiet.append ?_ (Event.quiet_warned _)
      split <;> exact ⟨rfl, rfl⟩

/-- Nothing is run and nothing published before the checks. -/
theorem quiet_accept (sur : Surroundings) (s : Service) (n : Notice) :
    Event.Quiet (s.accept sur n).2.1 := by
  have silent : Event.Quiet [] := ⟨rfl, rfl⟩
  cases n with
  | opened d =>
      simp only [accept]
      split <;> exact silent
  | changed u version edits =>
      simp only [accept]
      split
      · split
        · exact quiet_learnSettings sur u _
        · exact ⟨rfl, rfl⟩
      · exact silent
  | saved u =>
      simp only [accept]
      split
      · exact quiet_learnSettings sur u s
      · exact silent
  | closed u => exact silent
  | filesChanged changes =>
      simp only [accept]
      split <;> exact silent
  | configured payload =>
      simp only [accept, receive]
      split
      · exact silent
      · simp only
        unfold Resolver.configurationChanged
        split
        · exact Event.quiet_warned _
        · exact silent

theorem relatedTo_eq (s : Service) (u : Uri) :
    Work.relatedTo s u =
      s.fixed?.bind fun found => if found.1.relatedInformation then some u else none := by
  unfold Work.relatedTo fixed?
  cases s.session <;> rfl

/-- What diagnostics point back at is fixed with the session. -/
theorem relatedTo_accept (sur : Surroundings) (s : Service) (n : Notice) (u : Uri) :
    Work.relatedTo (s.accept sur n).1 u = Work.relatedTo s u := by
  rw [relatedTo_eq, fixed?_accept, ← relatedTo_eq]

/-- What is accepted depends neither on the files nor on anything but the editor's answers. -/
theorem accept_files (same : sur'.ask = sur.ask) (s : Service) (n : Notice) (fs : Files) :
    { s with files := fs }.accept sur' n =
      ({ (s.accept sur n).1 with files := fs }, (s.accept sur n).2) := by
  have learnt (u : Uri) (t : Service) :
      Work.learnSettings sur' u { t with files := fs } =
        ((Work.learnSettings sur u t).1, (Work.learnSettings sur u t).2.1,
          { (Work.learnSettings sur u t).2.2 with files := fs }) := by
    unfold Work.learnSettings
    rw [same]
    cases shaken : t.session <;> simp [shaken]
  have on : ({ s with files := fs } : Service).active? = s.active? := rfl
  cases n with
  | opened d =>
      simp only [accept, on]
      split <;> rfl
  | changed u version edits =>
      simp only [accept, on]
      split
      · split
        · rename_i d store changed
          have := learnt u { s with store }
          simp only [this]
        · rfl
      · rfl
  | saved u =>
      simp only [accept, on]
      split
      · simp only [learnt u s]
      · rfl
  | closed u => rfl
  | filesChanged changes =>
      simp only [accept, on]
      split <;> rfl
  | configured payload =>
      simp only [accept, on]
      cases shaken : s.session <;> simp [receive, shaken]

/-! ## The publications of a notice -/

theorem publications_handle (sur : Surroundings) (s : Service) (n : Notice) :
    Event.publications (s.handle sur n).2 =
      (Target.checkAll sur s.files (s.accept sur n).2.2).map fun tc =>
        tc.1.publication s tc.2.verdict := by
  have flat (t : Service) (checks : List (Target × Check)) :
      Event.publications (checks.flatMap fun tc => tc.1.events t tc.2) =
        checks.map fun tc => tc.1.publication t tc.2.verdict := by
    induction checks with
    | nil => rfl
    | cons tc rest ih =>
        rw [List.flatMap_cons, Event.publications_append, Target.publications_events, ih]
        rfl
  rw [handle_eq]
  simp only
  rw [Event.publications_append, (quiet_accept sur s n).2, flat, List.nil_append]
  simp only [Target.publication, relatedTo_accept]

theorem runs_handle (sur : Surroundings) (s : Service) (n : Notice) :
    Event.runs (s.handle sur n).2 =
      (Target.checkAll sur s.files (s.accept sur n).2.2).flatMap fun tc => tc.2.runs := by
  have flat (t : Service) (checks : List (Target × Check)) :
      Event.runs (checks.flatMap fun tc => tc.1.events t tc.2) =
        checks.flatMap fun tc => tc.2.runs := by
    induction checks with
    | nil => rfl
    | cons tc rest ih =>
        rw [List.flatMap_cons, Event.runs_append, Target.runs_events, ih, List.flatMap_cons]
  rw [handle_eq]
  simp only
  rw [Event.runs_append, (quiet_accept sur s n).1, flat, List.nil_append]

/-- What is asked is asked before the checks. -/
theorem queries_handle (sur : Surroundings) (s : Service) (n : Notice) :
    Event.queries (s.handle sur n).2 = Event.queries (s.accept sur n).2.1 := by
  have flat (t : Service) (checks : List (Target × Check)) :
      Event.queries (checks.flatMap fun tc => tc.1.events t tc.2) = [] := by
    induction checks with
    | nil => rfl
    | cons tc rest ih =>
        rw [List.flatMap_cons, Event.queries_append, Target.queries_events, ih, List.nil_append]
  rw [handle_eq]
  simp only
  rw [Event.queries_append, flat, List.append_nil]

theorem headings_handle (sur : Surroundings) (s : Service) (n : Notice) :
    (Event.publications (s.handle sur n).2).map Publication.heading =
      (s.accept sur n).2.2.map Target.heading := by
  calc (Event.publications (s.handle sur n).2).map Publication.heading
      = ((Target.checkAll sur s.files (s.accept sur n).2.2).map Prod.fst).map Target.heading := by
        rw [publications_handle, List.map_map, List.map_map]
        rfl
    _ = (s.accept sur n).2.2.map Target.heading := by rw [Target.map_fst_checkAll]

/-- Each validation takes one run at most, and finds nothing if it failed or in what is no
file, which is not run on. -/
theorem validations_handle (sur : Surroundings) (s : Service) (n : Notice) :
    ∃ checks : List (Target × Check),
      checks = Target.checkAll sur s.files (checks.map Prod.fst) ∧
      Event.publications (s.handle sur n).2 =
        checks.map (fun tc => tc.1.publication s tc.2.verdict) ∧
      Event.runs (s.handle sur n).2 = checks.flatMap (fun tc => tc.2.runs) ∧
      ∀ tc ∈ checks, tc.2.runs.length ≤ 1 ∧
        (∀ failure, tc.2.verdict = .error failure →
          (tc.1.publication s tc.2.verdict).diagnostics = []) ∧
        (tc.1.uri.isFile = false →
          (tc.1.publication s tc.2.verdict).diagnostics = [] ∧ tc.2.runs = []) := by
  refine ⟨Target.checkAll sur s.files (s.accept sur n).2.2, ?_, publications_handle sur s n,
    runs_handle sur s n, ?_⟩
  · rw [Target.map_fst_checkAll]
  · intro tc member
    obtain ⟨fs, went⟩ := Target.mem_checkAll member
    rw [went]
    refine ⟨Target.length_runs_check sur fs tc.1, fun failure failed => ?_, fun other => ?_⟩
    · rw [failed]
      rfl
    · rw [Target.check_of_not_isFile sur fs other]
      exact ⟨rfl, rfl⟩

/-! ## Changes of a document -/

/-- A change of an open document is published if its settings say so. -/
theorem headings_changed {u : Uri} (active : s.active?.isSome = true)
    (known : s.store.contains u = true) (version : Int) (edits : List Edit) :
    (Event.publications (s.handle sur (.changed u version edits)).2).map Publication.heading =
      if (Work.learnSettings sur u s).1.lintOnChange then [(u, some version)] else [] := by
  obtain ⟨⟨d, store⟩, changed⟩ : ∃ result, s.store.change? u edits version = some result := by
    refine Option.ne_none_iff_exists'.mp fun unchanged => ?_
    simp [Store.contains, Store.change?_eq_none.mp unchanged] at known
  obtain ⟨uri_d, version_d, -⟩ := Store.change?_eq_some changed
  -- the settings do not depend on the documents
  have settings : (Work.learnSettings sur u { s with store }).1 = (Work.learnSettings sur u s).1 := by
    unfold Work.learnSettings
    cases s.session <;> rfl
  simp only [headings_handle, accept, active, if_true, changed]
  rw [settings]
  split
  · rw [List.map_singleton, Target.heading, Target.uri, Target.version, uri_d, version_d]
  · rfl

/-- A change of a document that is not open does nothing but warn. -/
theorem handle_changed_unknown {u : Uri} (active : s.active?.isSome = true)
    (unknown : s.store.contains u = false) (version : Int) (edits : List Edit) :
    s.handle sur (.changed u version edits) = (s, [.warned (.unknownDocument u)]) := by
  have refused : s.store.change? u edits version = none :=
    Store.change?_eq_none.mpr (by simpa [Store.contains] using unknown)
  rw [handle_eq]
  simp only [accept, active, if_true, refused]
  rfl

/-! ## Every trigger -/

/-- Of every notice, in every state that a run reaches and whatever the files are:

1. an opened document, an open document that was changed where the settings say so, a
   saved one, every file that changed and was not removed, and every open document when
   the configuration changed are published once each, in order, and nothing else is;
   a change of a document that is not open does nothing but warn;
2. what is published is what one validation of each came to: it takes one run at most,
   and finds nothing if it failed, or in what is no file, which is not run on at all;
3. documents and settings end up the same, whatever the files, the validator and the
   failures. -/
theorem every_trigger_publishes_once {files : Files} {calls : List Call} {s : Service}
    (reached : ((start files).performAll calls).1 = s) (active : s.active?.isSome = true)
    (sur : Surroundings) (fs : Files) :
    let now : Service := { s with files := fs }
    let headings (n : Notice) := (Event.publications (now.handle sur n).2).map Publication.heading
    ((∀ d, headings (.opened d) = [(d.uri, some d.version)]) ∧
      (∀ u version edits, s.store.contains u = true → headings (.changed u version edits) =
        if (Work.learnSettings sur u now).1.lintOnChange then [(u, some version)] else []) ∧
      (∀ u version edits, s.store.contains u = false →
        now.handle sur (.changed u version edits) = (now, [.warned (.unknownDocument u)])) ∧
      (∀ u, headings (.saved u) = [(u, none)]) ∧
      (∀ u, headings (.closed u) = []) ∧
      (∀ changes, headings (.filesChanged changes) =
        (changes.filter fun c => !c.isRemoval).map fun c => (c.uri, none)) ∧
      (∀ payload, headings (.configured payload) =
        s.store.documents.map fun d => (d.uri, some d.version)) ∧
      s.store.Distinct) ∧
    (∀ n, ∃ checks : List (Target × Check),
      checks = Target.checkAll sur fs (checks.map Prod.fst) ∧
      Event.publications (now.handle sur n).2 =
        checks.map (fun tc => tc.1.publication s tc.2.verdict) ∧
      Event.runs (now.handle sur n).2 = checks.flatMap (fun tc => tc.2.runs) ∧
      ∀ tc ∈ checks, tc.2.runs.length ≤ 1 ∧
        (∀ failure, tc.2.verdict = .error failure →
          (tc.1.publication s tc.2.verdict).diagnostics = []) ∧
        (tc.1.uri.isFile = false →
          (tc.1.publication s tc.2.verdict).diagnostics = [] ∧ tc.2.runs = [])) ∧
    ∀ n sur' fs', sur'.ask = sur.ask →
      ({ s with files := fs' }.handle sur' n).1.store = (now.handle sur n).1.store ∧
      ({ s with files := fs' }.handle sur' n).1.session = (now.handle sur n).1.session := by
  intro now headings
  have on : now.active?.isSome = true := active
  refine ⟨⟨?_, ?_, ?_, ?_, ?_, ?_, ?_, ?_⟩, ?_, ?_⟩
  · intro d
    simp only [headings, headings_handle, accept, on, if_true]
    rfl
  · exact fun u version edits known => headings_changed on known version edits
  · exact fun u version edits unknown => handle_changed_unknown on unknown version edits
  · intro u
    simp only [headings, headings_handle, accept, on, if_true]
    split <;> rfl
  · intro u
    simp only [headings, headings_handle, accept, List.map_nil]
  · intro changes
    simp only [headings, headings_handle, accept, on, if_true, List.map_map]
    rfl
  · intro payload
    simp only [headings, headings_handle, accept, on, if_true, List.map_map]
    rfl
  · rw [← reached]
    exact distinct_performAll calls Store.distinct_empty
  · exact fun n => validations_handle sur now n
  · intro n sur' fs' same
    have there := accept_files same s n fs'
    have here : now.accept sur n = _ := accept_files rfl s n fs
    rw [handle_eq, handle_eq, there, here]
    exact ⟨rfl, rfl⟩

/-- Where workspaces cannot be made, a document that was opened before is still published
once when the configuration changes. -/
theorem every_trigger_publishes_once_denied :
    let document : Document := ⟨⟨"file", some ⟨"", "", none⟩, .rooted ["a.ks"], none, none⟩, 1, []⟩
    let calm : Surroundings :=
      ⟨⟨true, fun _ => .plain (.ok none)⟩, fun _ => .ok none, .ofPlace [], .none⟩
    let denied : Surroundings := { calm with hindrances := ⟨some .denied, none, none⟩ }
    ∃ s, ((start default).performAll
        [⟨calm, .handshake .none⟩, ⟨calm, .notice (.opened document)⟩]).1 = s ∧
      s.active?.isSome = true ∧
      (Event.publications (s.handle denied (.configured .null)).2).map Publication.heading =
        [(document.uri, some 1)] := by
  intro document calm denied
  let s := ((start default).performAll
    [⟨calm, .handshake .none⟩, ⟨calm, .notice (.opened document)⟩]).1
  have active : s.active?.isSome = true := by
    simp only [s, performAll, perform, handle_eq]
    rfl
  have holds : s.store.documents = [document] := by
    simp only [s, performAll, perform, store_handle]
    rfl
  obtain ⟨⟨-, -, -, -, -, -, configured, -⟩, -⟩ :=
    every_trigger_publishes_once (s := s) rfl active denied s.files
  refine ⟨s, rfl, active, (configured .null).trans ?_⟩
  rw [holds]
  rfl

end Service

end Kickstart
