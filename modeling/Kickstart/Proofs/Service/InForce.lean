/-
# Kickstart.Proofs.Service.InForce -- the settings in force decide

In a run, what the service knows of each document's settings and which documents it holds
is what the calls come to when they are told afterwards (`Service.Follows`).  Every call
keeps that (`Follows.perform`), so every run does (`Follows.performAll`), and each period
that needs settings costs one query.

From it follows when documents are checked: `settings_in_force_decide`.
-/
import Kickstart.Proofs.Service.History
import Kickstart.Proofs.Service.Triggers
import Kickstart.Proofs.Settings.Resolver

namespace Kickstart

set_option autoImplicit false

/-! ## What the service recalls -/

/-- The resolver knows what the past comes to. -/
structure Resolver.Recalls (perResource : Bool) (past : List Call) (r : Resolver) : Prop where
  prompt : r.Prompt
  mode : r.isPerResource = perResource
  known : ∀ u, r.known? u = Call.recalled perResource u past

namespace Resolver.Recalls

variable {perResource : Bool} {past : List Call} {r : Resolver} {c : Call} {u : Uri}

theorem start (perResource : Bool) : Recalls perResource [] (.start perResource) := by
  refine ⟨prompt_start perResource, ?_, fun u => ?_⟩ <;> cases perResource <;> rfl

theorem keep (recalls : r.Recalls perResource past) (neutral : Call.Neutral past c) :
    r.Recalls perResource (past ++ [c]) := by
  refine ⟨recalls.prompt, recalls.mode, fun u => ?_⟩
  rw [Call.recalled_of_keeps (neutral.cuts u) neutral.payload, neutral.uses u]
  exact recalls.known u

theorem configurationChanged (recalls : r.Recalls perResource past) {payload : Json}
    (pushes : c.operation = .notice (.configured payload)) :
    (r.configurationChanged payload).2.Recalls perResource (past ++ [c]) := by
  obtain ⟨prompt, mode, -, known⟩ := configurationChanged_spec recalls.prompt payload
  refine ⟨prompt, mode.trans recalls.mode, fun u => ?_⟩
  rw [known, recalls.mode]
  cases perResource with
  | true => simp [Call.recalled_of_cuts (show c.cuts u = true by simp [Call.cuts, pushes])]
  | false => simp [Call.recalled, Call.pushed_concat, Call.payload?, pushes]

theorem forget (recalls : r.Recalls perResource past) (closes : c.operation = .notice (.closed u)) :
    (r.forget u).Recalls perResource (past ++ [c]) := by
  obtain ⟨prompt, mode, known⟩ := forget_spec recalls.prompt u
  have quiet : c.payload? = none := by simp [Call.payload?, closes]
  refine ⟨prompt, mode.trans recalls.mode, fun v => ?_⟩
  rw [known, recalls.mode, recalls.known]
  by_cases same : v = u
  · subst same
    cases perResource with
    | true => simp [Call.recalled_of_cuts (show c.cuts v = true by simp [Call.cuts, closes])]
    | false => simp [Call.recalled, Call.pushed_concat, quiet]
  · have keeps : c.cuts v = false := by simp [Call.cuts, closes, Ne.symm same]
    have idle : Call.uses v past c = false := by simp [Call.uses, closes]
    simp [Call.recalled_of_keeps keeps quiet, idle, same]

/-- A call that needs the settings of a document gets those in force, and asks for them if
it is the first in the period. -/
theorem resolve (recalls : r.Recalls perResource past) (needs : Call.uses u past c = true)
    (others : ∀ v, v ≠ u → Call.uses v past c = false) (keeps : ∀ v, c.cuts v = false)
    (quiet : c.payload? = none) :
    (r.resolve c.surroundings.ask u).1 = Call.inForce perResource u (past ++ [c]) ∧
      (r.resolve c.surroundings.ask u).2.2.Recalls perResource (past ++ [c]) ∧
      ∀ v, (Event.queries (r.resolve c.surroundings.ask u).2.1).count v =
        Call.asked perResource v past c := by
  obtain ⟨settings, queries, prompt, mode, known⟩ :=
    resolve_spec recalls.prompt c.surroundings.ask u
  have learnt : (r.resolve c.surroundings.ask u).1 = Call.inForce perResource u (past ++ [c]) := by
    rw [settings, recalls.known, Call.inForce_of_uses needs]
  refine ⟨learnt, ⟨prompt, mode.trans recalls.mode, fun v => ?_⟩, fun v => ?_⟩
  · rw [known, Call.recalled_of_keeps (keeps v) quiet]
    by_cases same : v = u
    · subst same
      rw [if_pos rfl, if_pos needs, settings, recalls.known]
    · rw [if_neg same, others v same, recalls.known]
      rfl
  · rw [queries, recalls.known]
    unfold Call.asked Call.recalled
    by_cases same : v = u
    · subst same
      cases perResource <;> cases Call.asker? v past <;> simp [needs]
    · have unasked (asked : Bool) : (if asked then [] else [u]).count v = 0 := by
        cases asked <;> simp [Ne.symm same]
      rw [unasked]
      simp [others v same]

end Resolver.Recalls

namespace Service

variable {sur : Surroundings} {s : Service} {n : Notice} {features : Features} {past : List Call}

/-- The service is in a session with a validator, and knows what the past comes to. -/
structure Follows (features : Features) (past : List Call) (s : Service) : Prop where
  session : ∃ r : Resolver,
    s.session = some ⟨features, true, r⟩ ∧ r.Recalls features.configuration past
  store : ∀ u, s.store.contains u = Call.isOpen u past

theorem Follows.active (follows : s.Follows features past) : s.active?.isSome = true := by
  obtain ⟨r, shaken, -⟩ := follows.session
  rw [active?_isSome, shaken]
  rfl

/-- Files do not matter to what is recalled. -/
theorem Follows.withFiles (follows : s.Follows features past) (fs : Files) :
    { s with files := fs }.Follows features past := ⟨follows.session, follows.store⟩

/-- Settings are learnt by a call that needs them. -/
theorem Follows.learnSettings (follows : s.Follows features past) {c : Call} {u : Uri}
    (needs : Call.uses u past c = true) (others : ∀ v, v ≠ u → Call.uses v past c = false)
    (keeps : ∀ v, c.cuts v = false) (quiet : c.payload? = none) (store : Store)
    (opens : ∀ v, store.contains v = Call.isOpen v (past ++ [c])) :
    let learnt := Work.learnSettings c.surroundings u { s with store }
    learnt.1 = Call.inForce features.configuration u (past ++ [c]) ∧
      learnt.2.2.Follows features (past ++ [c]) ∧
      ∀ v, (Event.queries learnt.2.1).count v = Call.asked features.configuration v past c := by
  obtain ⟨r, shaken, recalls⟩ := follows.session
  obtain ⟨settings, after, queries⟩ := recalls.resolve needs others keeps quiet
  simp only [Work.learnSettings, shaken]
  exact ⟨settings, ⟨⟨_, rfl, after⟩, opens⟩, queries⟩

/-- A saved document needs its settings. -/
theorem Follows.learn_saved (follows : s.Follows features past) (sur : Surroundings) (u : Uri) :
    let c : Call := ⟨sur, .notice (.saved u)⟩
    let learnt := Work.learnSettings sur u s
    learnt.1 = Call.inForce features.configuration u (past ++ [c]) ∧
      learnt.2.2.Follows features (past ++ [c]) ∧
      ∀ v, (Event.queries learnt.2.1).count v = Call.asked features.configuration v past c := by
  intro c
  refine follows.learnSettings (c := c) ?_ (fun v other => ?_) (fun _ => rfl) rfl s.store fun v => ?_
  · simp [c, Call.uses]
  · simp [c, Call.uses, Ne.symm other]
  · rw [Call.isOpen_concat]
    exact follows.store v

/-- An open document that is changed needs its settings. -/
theorem Follows.learn_changed (follows : s.Follows features past) (sur : Surroundings) {u : Uri}
    {version : Int} {edits : List Edit} {d : Document} {store : Store}
    (changed : s.store.change? u edits version = some (d, store)) :
    let c : Call := ⟨sur, .notice (.changed u version edits)⟩
    let learnt := Work.learnSettings sur u { s with store }
    learnt.1 = Call.inForce features.configuration u (past ++ [c]) ∧
      learnt.2.2.Follows features (past ++ [c]) ∧
      ∀ v, (Event.queries learnt.2.1).count v = Call.asked features.configuration v past c := by
  intro c
  obtain ⟨named, -, rfl, before, found, -⟩ := Store.change?_eq_some changed
  have present : s.store.contains u = true := by
    rw [Store.contains, found]
    rfl
  refine follows.learnSettings (c := c) ?_ (fun v other => ?_) (fun _ => rfl) rfl _ fun v => ?_
  · simp [c, Call.uses, ← follows.store, present]
  · simp [c, Call.uses, Ne.symm other]
  · rw [Store.contains_insert, named, Call.isOpen_concat, ← follows.store]
    by_cases same : u = v
    · simp [c, ← same, present, Call.opens?]
    · simp [c, same, Call.opens?]

/-- A notice that is accepted is recalled, and asks what it has to ask. -/
theorem Follows.accept (follows : s.Follows features past) (sur : Surroundings) (n : Notice) :
    (s.accept sur n).1.Follows features (past ++ [⟨sur, .notice n⟩]) ∧
      ∀ u, (Event.queries (s.accept sur n).2.1).count u =
        Call.asked features.configuration u past ⟨sur, .notice n⟩ := by
  have opens {store : Store}
      (after : ∀ u, store.contains u = (Call.opens? u ⟨sur, .notice n⟩).getD (s.store.contains u)) :
      ∀ u, store.contains u = Call.isOpen u (past ++ [⟨sur, .notice n⟩]) := by
    intro u
    rw [after, Call.isOpen_concat, follows.store]
  obtain ⟨r, shaken, recalls⟩ := follows.session
  cases n with
  | opened d =>
      have neutral : Call.Neutral past ⟨sur, .notice (.opened d)⟩ :=
        ⟨fun _ => rfl, fun _ => rfl, rfl⟩
      simp only [Service.accept, follows.active, if_true]
      refine ⟨⟨⟨r, shaken, recalls.keep neutral⟩, opens fun u => ?_⟩, fun u => ?_⟩
      · rw [Store.contains_insert]
        by_cases same : d.uri = u <;> simp [Call.opens?, same]
      · rw [neutral.asked]
        rfl
  | changed u version edits =>
      simp only [Service.accept, follows.active, if_true]
      cases changed : s.store.change? u edits version with
      | none =>
          have absent : s.store.contains u = false := by
            rw [Store.contains, Store.change?_eq_none.mp changed]
            rfl
          have neutral : Call.Neutral past ⟨sur, .notice (.changed u version edits)⟩ := by
            refine ⟨fun _ => rfl, fun v => ?_, rfl⟩
            by_cases same : u = v
            · simp [Call.uses, ← same, ← follows.store, absent]
            · simp [Call.uses, same]
          refine ⟨⟨⟨r, shaken, recalls.keep neutral⟩, opens fun _ => rfl⟩, fun v => ?_⟩
          rw [neutral.asked]
          rfl
      | some result => exact (follows.learn_changed sur changed).2
  | saved u =>
      simp only [Service.accept, follows.active, if_true]
      exact (follows.learn_saved sur u).2
  | closed u =>
      simp only [Service.accept, receive, shaken, Option.map_some]
      refine ⟨⟨⟨_, rfl, recalls.forget rfl⟩, opens fun v => ?_⟩, fun v => ?_⟩
      · rw [Store.contains_erase]
        by_cases same : u = v <;> simp [Call.opens?, same]
      · simp [Call.asked, Call.uses, Event.queries]
  | filesChanged changes =>
      have neutral : Call.Neutral past ⟨sur, .notice (.filesChanged changes)⟩ :=
        ⟨fun _ => rfl, fun _ => rfl, rfl⟩
      simp only [Service.accept, follows.active, if_true]
      refine ⟨⟨⟨r, shaken, recalls.keep neutral⟩, opens fun _ => rfl⟩, fun u => ?_⟩
      rw [neutral.asked]
      rfl
  | configured payload =>
      obtain ⟨-, -, queries, -⟩ := Resolver.configurationChanged_spec recalls.prompt payload
      simp only [Service.accept, receive, shaken]
      refine ⟨⟨⟨_, rfl, recalls.configurationChanged rfl⟩, opens fun _ => rfl⟩, fun u => ?_⟩
      rw [queries]
      simp [Call.asked, Call.uses]

/-- Every call is recalled. -/
theorem Follows.perform (follows : s.Follows features past) (c : Call) :
    (s.perform c).1.Follows features (past ++ [c]) ∧
      ∀ u, (Event.queries (s.perform c).2).count u =
        Call.asked features.configuration u past c := by
  obtain ⟨sur, operation⟩ := c
  obtain ⟨r, shaken, recalls⟩ := follows.session
  -- calls that say nothing about documents or configuration
  have idle (neutral : Call.Neutral past ⟨sur, operation⟩)
      (same : ∀ u, Call.opens? u ⟨sur, operation⟩ = none) (fs : Files) :
      Follows features (past ++ [⟨sur, operation⟩]) { s with files := fs } := by
    refine ⟨⟨r, shaken, recalls.keep neutral⟩, fun u => ?_⟩
    rw [Call.isOpen_concat, same]
    exact follows.store u
  cases operation with
  | notice n =>
      obtain ⟨after, queries⟩ := follows.accept sur n
      refine ⟨?_, fun u => ?_⟩
      · simp only [Service.perform, handle_eq]
        exact after.withFiles _
      · simp only [Service.perform, queries_handle]
        exact queries u
  | handshake features' =>
      have neutral : Call.Neutral past ⟨sur, .handshake features'⟩ :=
        ⟨fun _ => rfl, fun _ => rfl, rfl⟩
      simp only [Service.perform, handshake, shaken]
      exact ⟨idle neutral (fun _ => rfl) s.files, fun u => by simp [neutral.asked, Event.queries]⟩
  | complete v p =>
      have neutral : Call.Neutral past ⟨sur, .complete v p⟩ :=
        ⟨fun _ => rfl, fun _ => rfl, rfl⟩
      exact ⟨idle neutral (fun _ => rfl) s.files,
        fun u => by simp [neutral.asked, Service.perform, Event.queries]⟩
  | put place entry =>
      have neutral : Call.Neutral past ⟨sur, .put place entry⟩ := ⟨fun _ => rfl, fun _ => rfl, rfl⟩
      exact ⟨idle neutral (fun _ => rfl) _,
        fun u => by simp [neutral.asked, Service.perform, Event.queries]⟩
  | remove place =>
      have neutral : Call.Neutral past ⟨sur, .remove place⟩ := ⟨fun _ => rfl, fun _ => rfl, rfl⟩
      exact ⟨idle neutral (fun _ => rfl) _,
        fun u => by simp [neutral.asked, Service.perform, Event.queries]⟩

/-- A run is recalled, and asks once for each period that needs settings. -/
theorem Follows.performAll (follows : s.Follows features past) (calls : List Call) :
    (s.performAll calls).1.Follows features (past ++ calls) ∧
      ∀ u, Call.queriesDue features.configuration u (past ++ calls) =
        Call.queriesDue features.configuration u past +
          (Event.queries (s.performAll calls).2).count u := by
  induction calls generalizing s past with
  | nil => simpa [Service.performAll, Event.queries] using follows
  | cons c later ih =>
      obtain ⟨after, once⟩ := follows.perform c
      obtain ⟨told, rest⟩ := ih after
      rw [List.append_assoc, List.singleton_append] at told rest
      refine ⟨told, fun u => ?_⟩
      simp only [Service.performAll]
      rw [rest, Call.queriesDue_concat, Event.queries_append, List.count_append, once, Nat.add_assoc]

theorem follows_handshake (files : Files) (features : Features)
    (available : sur.validator.available = true) :
    ((start files).perform ⟨sur, .handshake features⟩).1.Follows features [] := by
  refine ⟨⟨.start features.configuration, ?_, .start features.configuration⟩, fun u => rfl⟩
  simp [perform, handshake, start, available]

/-! ## The settings decide -/

/-- Handling a notice validates these targets and nothing else. -/
def Validates (sur : Surroundings) (s : Service) (n : Notice) (targets : List Target) : Prop :=
  Event.runs (s.handle sur n).2 =
      (Target.checkAll sur s.files targets).flatMap (fun tc => tc.2.runs) ∧
    Event.publications (s.handle sur n).2 =
      (Target.checkAll sur s.files targets).map fun tc => tc.1.publication s tc.2.verdict

theorem validates_accept (sur : Surroundings) (s : Service) (n : Notice) :
    s.Validates sur n (s.accept sur n).2.2 :=
  ⟨runs_handle sur s n, publications_handle sur s n⟩

/-- A saved file is checked if the settings in force say so. -/
theorem Follows.saved (follows : s.Follows features past) (sur : Surroundings) (u : Uri) :
    s.Validates sur (.saved u)
      [if (Call.inForce features.configuration u
          (past ++ [⟨sur, .notice (.saved u)⟩])).lintOnSave then .file u else .nothing u] := by
  have validates := validates_accept sur s (.saved u)
  simp only [Service.accept, follows.active, if_true, (follows.learn_saved sur u).1] at validates
  exact validates

/-- The new buffer of a changed document is checked if the settings in force say so. -/
theorem Follows.changed (follows : s.Follows features past) (sur : Surroundings) {u : Uri}
    (known : Call.isOpen u past = true) (version : Int) (edits : List Edit) :
    ∃ before, s.store.get? u = some before ∧
      s.Validates sur (.changed u version edits)
        (if (Call.inForce features.configuration u
            (past ++ [⟨sur, .notice (.changed u version edits)⟩])).lintOnChange then
          [.buffer (before.change edits version)] else []) := by
  rw [← follows.store] at known
  obtain ⟨before, found⟩ := Option.isSome_iff_exists.mp known
  have changed : s.store.change? u edits version =
      some (before.change edits version, s.store.insert (before.change edits version)) := by
    rw [Store.change?, found, Option.map_some]
  have validates := validates_accept sur s (.changed u version edits)
  simp only [Service.accept, follows.active, if_true, changed,
    (follows.learn_changed sur changed).1] at validates
  exact ⟨before, found, validates⟩

/-- What is opened, what changed on disk, and every open document when the configuration
changes, is checked whatever the settings, and nothing is asked. -/
theorem Follows.regardless (follows : s.Follows features past) (sur : Surroundings) :
    (∀ d, s.Validates sur (.opened d) [.buffer d] ∧
        Event.queries (s.handle sur (.opened d)).2 = []) ∧
      (∀ changes, s.Validates sur (.filesChanged changes)
          ((changes.filter fun c => !c.isRemoval).map fun c => .file c.uri) ∧
        Event.queries (s.handle sur (.filesChanged changes)).2 = []) ∧
      ∀ payload, s.Validates sur (.configured payload) (s.store.documents.map .buffer) ∧
        Event.queries (s.handle sur (.configured payload)).2 = [] := by
  refine ⟨fun d => ⟨?_, ?_⟩, fun changes => ⟨?_, ?_⟩, fun payload => ⟨?_, ?_⟩⟩
  · simpa only [Service.accept, follows.active, if_true] using validates_accept sur s (.opened d)
  · rw [queries_handle]
    simp only [Service.accept, follows.active, if_true]
    rfl
  · simpa only [Service.accept, follows.active, if_true] using
      validates_accept sur s (.filesChanged changes)
  · rw [queries_handle]
    simp only [Service.accept, follows.active, if_true]
    rfl
  · simpa only [Service.accept, follows.active, if_true] using
      validates_accept sur s (.configured payload)
  · obtain ⟨r, shaken, recalls⟩ := follows.session
    rw [queries_handle]
    simp only [Service.accept, receive, shaken]
    exact (Resolver.configurationChanged_spec recalls.prompt payload).2.2.1

/-- In a session with a validator, after any calls:

1. a saved file of this machine is run on if and only if `lintOnSave` is in force for it;
2. the new buffer of an open document that is changed is checked if and only if
   `lintOnChange` is in force for it;
3. what is opened, what changed on disk, and every open document when the configuration
   changes, is checked whatever the settings, and the editor is not asked;
4. an editor that answers for each document was asked once for each period of a document
   that needed its settings, and any other editor was never asked. -/
theorem settings_in_force_decide {sur : Surroundings} (available : sur.validator.available = true)
    (files : Files) (features : Features) (past : List Call) :
    let run := (start files).performAll (⟨sur, .handshake features⟩ :: past)
    let inForce (u : Uri) (sur : Surroundings) (n : Notice) : Settings :=
      Call.inForce features.configuration u (past ++ [⟨sur, .notice n⟩])
    (∀ sur u bytes, u.filePath? = some bytes →
      Event.runs (run.1.handle sur (.saved u)).2 =
        if (inForce u sur (.saved u)).lintOnSave then [Validator.recordOf run.1.files ⟨bytes⟩]
        else []) ∧
    (∀ sur u version edits, Call.isOpen u past = true →
      ∃ before, run.1.store.get? u = some before ∧
        run.1.Validates sur (.changed u version edits)
          (if (inForce u sur (.changed u version edits)).lintOnChange then
            [.buffer (before.change edits version)] else [])) ∧
    (∀ sur d, run.1.Validates sur (.opened d) [.buffer d] ∧
        Event.queries (run.1.handle sur (.opened d)).2 = []) ∧
    (∀ sur changes, run.1.Validates sur (.filesChanged changes)
          ((changes.filter fun c => !c.isRemoval).map fun c => .file c.uri) ∧
        Event.queries (run.1.handle sur (.filesChanged changes)).2 = []) ∧
    (∀ sur payload, run.1.Validates sur (.configured payload)
          (run.1.store.documents.map .buffer) ∧
        Event.queries (run.1.handle sur (.configured payload)).2 = []) ∧
    ∀ u, (Event.queries run.2).count u =
      if features.configuration then Call.usedPeriods u past else 0 := by
  intro run inForce
  obtain ⟨told, queries⟩ := (follows_handshake files features available).performAll past
  have follows : run.1.Follows features past := told
  refine ⟨?_, ?_, ?_, ?_, ?_, ?_⟩
  · intro sur u bytes names
    have ran (fs : Files) : ((Target.file u).check sur fs).runs = [Validator.recordOf fs ⟨bytes⟩] := by
      simp only [Target.check, Uri.isFile_of_filePath? names, if_true, names]
    rw [(follows.saved sur u).1]
    simp only [inForce]
    split
    · simp [Target.checkAll, ran]
    · simp [Target.checkAll, Target.check]
  · exact fun sur u version edits known => follows.changed sur known version edits
  · exact fun sur => (follows.regardless sur).1
  · exact fun sur => (follows.regardless sur).2.1
  · exact fun sur => (follows.regardless sur).2.2
  · intro u
    have none_yet : Call.queriesDue features.configuration u [] = 0 := by
      cases features.configuration <;> rfl
    have counted := queries u
    rw [none_yet, List.nil_append, Nat.zero_add] at counted
    -- the handshake itself asks nothing
    have later : Event.queries run.2 = Event.queries
        (((start files).perform ⟨sur, .handshake features⟩).1.performAll past).2 := rfl
    rw [later, ← counted]
    rfl

/-- A query that failed counts like an answer: the defaults are in force until the document
is closed or the configuration changes, whatever the editor would answer by then. -/
theorem settings_in_force_decide_failed_query :
    let u : Uri := ⟨"file", some ⟨"", "", none⟩, .rooted ["a.ks"], none, none⟩
    let off : Json := .object [("linting", .object [("lintOnSave", .bool false)])]
    let silent : Surroundings :=
      ⟨⟨true, fun _ => .plain (.ok none)⟩, fun _ => .error "gone", .ofPlace [], .none⟩
    let talking : Surroundings := { silent with ask := fun _ => .ok (some off) }
    let features : Features := { Features.none with configuration := true }
    let run := (start default).performAll
      [⟨silent, .handshake features⟩, ⟨silent, .notice (.saved u)⟩]
    silent.validator.available = true ∧
      (Event.runs (run.1.handle talking (.saved u)).2).length = 1 ∧
      (Event.queries run.2).count u = 1 := by
  intro u off silent talking features run
  have available : silent.validator.available = true := rfl
  obtain ⟨saved, -, -, -, -, queries⟩ :=
    settings_in_force_decide available default features [⟨silent, .notice (.saved u)⟩]
  refine ⟨available, ?_, queries u⟩
  rw [saved talking u _ rfl]
  rfl

end Service

end Kickstart
