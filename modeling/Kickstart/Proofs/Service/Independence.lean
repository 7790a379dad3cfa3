/-
# Kickstart.Proofs.Service.Independence -- documents do not interfere

Two runs are compared: one with the calls about all documents, and the same without the
calls that are about others (`Call.only?`).  They are at the same point (`Service.Level`)
when they agree on the document and on its settings, and their files differ in workspaces
only.  A call about the document keeps them there and shows the same of it
(`Level.perform`), one about others keeps them there and shows nothing of it
(`Level.perform_other`); so does every run (`documents_do_not_interfere`).

Two things have to be granted.  The document and the root of workspaces are not
themselves looked for in a workspace (`Uri.Apart`), and there is a name left for a
workspace whenever a copy of the document is to be made (`Service.AllFit`).
-/
import Kickstart.Proofs.Service.Containment
import Kickstart.Proofs.Service.Triggers
import Kickstart.Proofs.Settings.Resolver

namespace Kickstart

set_option autoImplicit false

open Files Scratch

/-! ## What is left of a run without the other documents -/

/-- The notice as far as it is about a document; a change of configuration is about all. -/
def Notice.only? (u : Uri) : Notice → Option Notice
  | .opened d => if d.uri = u then some (.opened d) else none
  | .changed v version edits => if v = u then some (.changed v version edits) else none
  | .saved v => if v = u then some (.saved v) else none
  | .closed v => if v = u then some (.closed v) else none
  | .filesChanged changes => some (.filesChanged (changes.filter fun c => c.uri = u))
  | .configured payload => some (.configured payload)

/-- The call as far as it is about a document; handshakes, changes of configuration and
what others do to the files are about all. -/
def Call.only? (u : Uri) (c : Call) : Option Call :=
  match c.operation with
  | .notice n => (n.only? u).map fun n => ⟨c.surroundings, .notice n⟩
  | .complete v _ => if v = u then some c else none
  | _ => some c

/-- The notice is about files on disk. -/
def Notice.checksFiles : Notice → Bool
  | .saved _ => true
  | .filesChanged _ => true
  | _ => false

theorem Notice.checksFiles_of_only? {u : Uri} {n n' : Notice} (kept : n.only? u = some n')
    (checks : n'.checksFiles = true) : n.checksFiles = true := by
  cases n with
  | saved v => rfl
  | filesChanged changes => rfl
  | configured payload =>
      obtain rfl := Option.some.inj kept
      exact checks
  | _ =>
      simp only [Notice.only?, Option.ite_none_right_eq_some, Option.some.injEq] at kept
      obtain ⟨-, rfl⟩ := kept
      exact checks

/-- A call as the service can expect it: workspaces are made where they always are, and runs
on files leave the files alone. -/
structure Call.Orderly (temporary : Path) (c : Call) : Prop where
  temporary : c.surroundings.temporary = temporary
  spares : ∀ {n : Notice}, c.operation = .notice n → n.checksFiles = true → c.surroundings.Spares

/-- A document and the root of workspaces are found without entering a workspace. -/
structure Uri.Apart (u : Uri) (temporary : Path) (here : Place) : Prop where
  proper : here.Proper
  root : temporary.Passes here (temporary.goal here)
  file : ∀ bytes, u.filePath? = some bytes → (Path.mk bytes).Passes here (temporary.goal here)

/-! ## Services that agree on a document -/

/-- Sessions that know the same of a document. -/
inductive Session.Agree (u : Uri) : Option Session → Option Session → Prop
  | before : Agree u none none
  | during {features : Features} {validating : Bool} {r r' : Resolver} (prompt : r.Prompt)
      (prompt' : r'.Prompt) (mode : r'.isPerResource = r.isPerResource)
      (known : r'.known? u = r.known? u) :
      Agree u (some ⟨features, validating, r⟩) (some ⟨features, validating, r'⟩)

theorem Session.Agree.forget {u : Uri} {a b : Option Session} (agree : Session.Agree u a b) (v : Uri) :
    Session.Agree u (a.map fun x => { x with settings := x.settings.forget v })
      (b.map fun x => { x with settings := x.settings.forget v }) := by
  cases agree with
  | before => exact .before
  | during prompt prompt' mode known =>
      obtain ⟨after, mode_after, knows⟩ := Resolver.forget_spec prompt v
      obtain ⟨after', mode_after', knows'⟩ := Resolver.forget_spec prompt' v
      refine .during after after' ?_ ?_
      · rw [mode_after, mode_after', mode]
      · rw [knows, knows', mode, known]

theorem Session.Agree.forget_other {u v : Uri} {a b : Option Session}
    (agree : Session.Agree u a b) (other : v ≠ u) :
    Session.Agree u (a.map fun x => { x with settings := x.settings.forget v }) b := by
  cases agree with
  | before => exact .before
  | during prompt prompt' mode known =>
      obtain ⟨after, mode_after, knows⟩ := Resolver.forget_spec prompt v
      refine .during after prompt' (mode.trans mode_after.symm) ?_
      rw [knows, if_neg (fun both => other both.2.symm), known]

namespace Service

variable {sur : Surroundings} {s t : Service} {n n' : Notice} {u v : Uri}

/-- Services that agree on a document, whatever they hold of others. -/
structure Agree (u : Uri) (s t : Service) : Prop where
  session : Session.Agree u s.session t.session
  document : t.store.get? u = s.store.get? u
  distinct : s.store.Distinct
  distinct' : t.store.Distinct

theorem Agree.active (agree : s.Agree u t) : t.active?.isSome = s.active?.isSome := by
  rw [active?_isSome, active?_isSome]
  obtain ⟨session, -, -, -⟩ := agree
  generalize s.session = a at session
  generalize t.session = b at session
  cases session <;> rfl

theorem Agree.related (agree : s.Agree u t) (v : Uri) : Work.relatedTo s v = Work.relatedTo t v := by
  obtain ⟨session, -, -, -⟩ := agree
  unfold Work.relatedTo
  generalize s.session = a at session
  generalize t.session = b at session
  cases session <;> rfl

theorem Agree.withStores {a b : Store} (agree : s.Agree u t) (document : b.get? u = a.get? u)
    (distinct : a.Distinct) (distinct' : b.Distinct) :
    Agree u { s with store := a } { t with store := b } :=
  ⟨agree.session, document, distinct, distinct'⟩

/-- Both learn the same settings of the document, and ask the same. -/
theorem Agree.learn (agree : s.Agree u t) (sur : Surroundings) :
    let here := Work.learnSettings sur u s
    let there := Work.learnSettings sur u t
    here.1 = there.1 ∧ Event.queries here.2.1 = Event.queries there.2.1 ∧
      here.2.2.Agree u there.2.2 := by
  obtain ⟨session, document, distinct, distinct'⟩ := agree
  unfold Work.learnSettings
  generalize shaken : s.session = a at session
  generalize shaken' : t.session = b at session
  cases session with
  | before => exact ⟨rfl, rfl, ⟨by rw [shaken, shaken']; exact .before, document, distinct, distinct'⟩⟩
  | @during features validating r r' prompt prompt' mode known =>
      obtain ⟨settings, queries, after, mode_after, knows⟩ := Resolver.resolve_spec prompt sur.ask u
      obtain ⟨settings', queries', after', mode_after', knows'⟩ :=
        Resolver.resolve_spec prompt' sur.ask u
      have same : (r.resolve sur.ask u).1 = (r'.resolve sur.ask u).1 := by
        rw [settings, settings', known]
      refine ⟨same, ?_, ⟨.during after after' ?_ ?_, document, distinct, distinct'⟩⟩
      · simp only
        rw [queries, queries', known]
      · rw [mode_after, mode_after', mode]
      · rw [knows, knows', if_pos rfl, if_pos rfl, same]

/-- What one of them learns of another document does not matter. -/
theorem Agree.learn_other (agree : s.Agree u t) (other : v ≠ u) (sur : Surroundings) :
    (Work.learnSettings sur v s).2.2.Agree u t ∧
      (Event.queries (Work.learnSettings sur v s).2.1).filter (fun w => w = u) = [] := by
  obtain ⟨session, document, distinct, distinct'⟩ := agree
  unfold Work.learnSettings
  generalize shaken : s.session = a at session
  generalize shaken' : t.session = b at session
  cases session with
  | before => exact ⟨⟨by rw [shaken, shaken']; exact .before, document, distinct, distinct'⟩, rfl⟩
  | during prompt prompt' mode known =>
      obtain ⟨-, queries, after, mode_after, knows⟩ := Resolver.resolve_spec prompt sur.ask v
      refine ⟨⟨?_, document, distinct, distinct'⟩, ?_⟩
      · rw [shaken']
        refine .during after prompt' (mode.trans mode_after.symm) ?_
        rw [knows, if_neg (Ne.symm other), known]
      · simp only
        rw [queries]
        split <;> simp [other]

/-- A change of configuration comes to the same for both, and asks nothing. -/
theorem Agree.configure (agree : s.Agree u t) (payload : Json) :
    (s.receive (.configured payload)).service.Agree u (t.receive (.configured payload)).service ∧
      Event.queries (s.receive (.configured payload)).events = [] ∧
      Event.queries (t.receive (.configured payload)).events = [] := by
  obtain ⟨session, document, distinct, distinct'⟩ := agree
  unfold receive
  generalize shaken : s.session = a at session
  generalize shaken' : t.session = b at session
  cases session with
  | before => exact ⟨⟨by rw [shaken, shaken']; exact .before, document, distinct, distinct'⟩, rfl, rfl⟩
  | during prompt prompt' mode known =>
      obtain ⟨after, mode_after, silent, knows⟩ := Resolver.configurationChanged_spec prompt payload
      obtain ⟨after', mode_after', silent', knows'⟩ :=
        Resolver.configurationChanged_spec prompt' payload
      refine ⟨⟨.during after after' ?_ ?_, document, distinct, distinct'⟩, silent, silent'⟩
      · rw [mode_after, mode_after', mode]
      · rw [knows, knows', mode]

/-! ## Accepting a notice -/

/-- A notice about the document is accepted alike. -/
theorem Agree.accept (agree : s.Agree u t) (kept : n.only? u = some n') (sur : Surroundings) :
    (s.accept sur n).1.Agree u (t.accept sur n').1 ∧
      (s.accept sur n).2.2.filter (fun x => x.uri = u) =
        (t.accept sur n').2.2.filter (fun x => x.uri = u) ∧
      (Event.queries (s.accept sur n).2.1).filter (fun w => w = u) =
        (Event.queries (t.accept sur n').2.1).filter (fun w => w = u) := by
  have on := agree.active
  cases n with
  | opened d =>
      simp only [Notice.only?, Option.ite_none_right_eq_some, Option.some.injEq] at kept
      obtain ⟨rfl, rfl⟩ := kept
      simp only [Service.accept, on]
      split
      · refine ⟨agree.withStores ?_ (agree.distinct.insert d) (agree.distinct'.insert d), rfl, rfl⟩
        rw [Store.get?_insert_self, Store.get?_insert_self]
      · exact ⟨agree, rfl, rfl⟩
  | changed v version edits =>
      simp only [Notice.only?, Option.ite_none_right_eq_some, Option.some.injEq] at kept
      obtain ⟨rfl, rfl⟩ := kept
      simp only [Service.accept, on, Store.change?, agree.document]
      split
      · cases found : s.store.get? v with
        | none => exact ⟨agree, rfl, rfl⟩
        | some before =>
            have named : before.uri = v := Store.uri_of_get? found
            have same (store : Store) : (store.insert (before.change edits version)).get? v =
                some (before.change edits version) := by
              rw [← named]
              exact Store.get?_insert_self store (before.change edits version)
            have agree' := agree.withStores ((same t.store).trans (same s.store).symm)
              (agree.distinct.insert _) (agree.distinct'.insert _)
            obtain ⟨settings, queries, after⟩ := agree'.learn sur
            simp only [Option.map_some]
            exact ⟨after, by rw [settings], by rw [queries]⟩
      · exact ⟨agree, rfl, rfl⟩
  | saved v =>
      simp only [Notice.only?, Option.ite_none_right_eq_some, Option.some.injEq] at kept
      obtain ⟨rfl, rfl⟩ := kept
      simp only [Service.accept, on]
      split
      · obtain ⟨settings, queries, after⟩ := agree.learn sur
        exact ⟨after, by rw [settings], by rw [queries]⟩
      · exact ⟨agree, rfl, rfl⟩
  | closed v =>
      simp only [Notice.only?, Option.ite_none_right_eq_some, Option.some.injEq] at kept
      obtain ⟨rfl, rfl⟩ := kept
      refine ⟨⟨agree.session.forget v, ?_, agree.distinct.erase v, agree.distinct'.erase v⟩, rfl, rfl⟩
      simp only [Service.accept, receive, Store.get?_erase, if_true]
  | filesChanged changes =>
      obtain rfl := Option.some.inj kept
      simp only [Service.accept, on]
      split
      · refine ⟨agree, ?_, rfl⟩
        simp only [List.filter_map, List.filter_filter]
        congr 2
        funext c
        by_cases same : c.uri = u <;> simp [Target.uri, same]
      · exact ⟨agree, rfl, rfl⟩
  | configured payload =>
      obtain rfl := Option.some.inj kept
      have own (store : Store) (distinct : store.Distinct) :
          (store.documents.map Target.buffer).filter (fun x => x.uri = u) =
            (store.get? u).toList.map Target.buffer := by
        rw [← distinct.filter_uri u, List.filter_map]
        rfl
      obtain ⟨after, silent, silent'⟩ := agree.configure payload
      refine ⟨after, ?_, ?_⟩
      · simp only [Service.accept, on]
        split
        · rw [own _ agree.distinct, own _ agree.distinct', agree.document]
        · rfl
      · simp only [Service.accept]
        rw [silent, silent']

/-- A notice about other documents changes nothing for the document. -/
theorem Agree.accept_other (agree : s.Agree u t) (dropped : n.only? u = none)
    (sur : Surroundings) :
    (s.accept sur n).1.Agree u t ∧
      (s.accept sur n).2.2.filter (fun x => x.uri = u) = [] ∧
      (Event.queries (s.accept sur n).2.1).filter (fun w => w = u) = [] := by
  cases n with
  | opened d =>
      have other : d.uri ≠ u := fun same => by simp [Notice.only?, same] at dropped
      simp only [Service.accept]
      split
      · refine ⟨⟨agree.session, ?_, agree.distinct.insert d, agree.distinct'⟩, ?_, rfl⟩
        · rw [agree.document, Store.get?_insert_ne (Ne.symm other)]
        · simp [Target.uri, other]
      · exact ⟨agree, rfl, rfl⟩
  | changed v version edits =>
      have other : v ≠ u := fun same => by simp [Notice.only?, same] at dropped
      simp only [Service.accept]
      split
      · split
        · rename_i d store changed
          obtain ⟨named, -, rfl, -⟩ := Store.change?_eq_some changed
          have apart : Agree u { s with store := s.store.insert d } t := by
            refine ⟨agree.session, ?_, agree.distinct.insert d, agree.distinct'⟩
            rw [agree.document, Store.get?_insert_ne (by rw [named]; exact Ne.symm other)]
          obtain ⟨after, silent⟩ := apart.learn_other other sur
          refine ⟨after, ?_, silent⟩
          split <;> simp [Target.uri, named, other]
        · exact ⟨agree, rfl, rfl⟩
      · exact ⟨agree, rfl, rfl⟩
  | saved v =>
      have other : v ≠ u := fun same => by simp [Notice.only?, same] at dropped
      simp only [Service.accept]
      split
      · obtain ⟨after, silent⟩ := agree.learn_other other sur
        refine ⟨after, ?_, silent⟩
        split <;> simp [Target.uri, other]
      · exact ⟨agree, rfl, rfl⟩
  | closed v =>
      have other : v ≠ u := fun same => by simp [Notice.only?, same] at dropped
      refine ⟨⟨agree.session.forget_other other, ?_, agree.distinct.erase v, agree.distinct'⟩, rfl, rfl⟩
      simp only [Service.accept, receive]
      rw [agree.document, Store.get?_erase, if_neg (Ne.symm other)]
  | filesChanged changes => cases dropped
  | configured payload => cases dropped

/-- Files are checked by notices about files only. -/
theorem file_mem_accept {sur : Surroundings} (member : Target.file v ∈ (s.accept sur n).2.2) :
    n.checksFiles = true := by
  cases n with
  | opened d =>
      simp only [Service.accept] at member
      split at member <;> simp at member
  | changed w version edits =>
      simp only [Service.accept] at member
      split at member
      · split at member
        · simp only at member
          split at member <;> simp at member
        · cases member
      · cases member
  | saved w => rfl
  | closed w => cases member
  | filesChanged changes => rfl
  | configured payload =>
      simp only [Service.accept] at member
      split at member <;> simp at member

/-! ## Handling a notice -/

/-- Handling a notice changes nothing outside workspaces. -/
theorem alike_handle (proper : s.files.here.Proper) (spares : n.checksFiles = true → sur.Spares) :
    Alike (sur.root s.files) s.files (s.handle sur n).1.files := by
  rw [handle_eq]
  exact Target.alike_checkAll proper fun v member => spares (file_mem_accept member)

/-- Two runs at the same point, one with all documents and one with a single document. -/
structure Level (u : Uri) (temporary : Path) (here : Place) (s t : Service) : Prop where
  agree : s.Agree u t
  alike : Alike (temporary.goal here) s.files t.files
  here : s.files.here = here

variable {temporary : Path} {here : Place}

/-- Handling a notice about the document comes to the same for it. -/
theorem Level.handle (level : Level u temporary here s t) (apart : u.Apart temporary here)
    (same : sur.temporary = temporary) (spares : n.checksFiles = true → sur.Spares)
    (kept : n.only? u = some n')
    (room : Target.AllFit sur u s.files (s.accept sur n).2.2)
    (room' : Target.AllFit sur u t.files (t.accept sur n').2.2) :
    Level u temporary here (s.handle sur n).1 (t.handle sur n').1 ∧
      (Event.publications (s.handle sur n).2).filter (fun p => p.uri = u) =
        (Event.publications (t.handle sur n').2).filter (fun p => p.uri = u) ∧
      (Event.queries (s.handle sur n).2).filter (fun w => w = u) =
        (Event.queries (t.handle sur n').2).filter (fun w => w = u) := by
  obtain ⟨agree, alike, rfl⟩ := level
  subst same
  obtain ⟨after, targets, queries⟩ := agree.accept kept sur
  have spares' : n'.checksFiles = true → sur.Spares := fun checks =>
    spares (Notice.checksFiles_of_only? kept checks)
  have left := alike_handle apart.proper spares
  have left' : Alike (sur.root t.files) t.files (t.handle sur n').1.files :=
    alike_handle (alike.here ▸ apart.proper) spares'
  have same_root : sur.root t.files = sur.root s.files := Surroundings.root_congr alike.here
  refine ⟨⟨?_, ?_, ?_⟩, ?_, ?_⟩
  · rw [handle_eq, handle_eq]
    exact ⟨after.session, after.document, after.distinct, after.distinct'⟩
  · rw [same_root] at left'
    exact left.symm.trans (alike.trans left')
  · exact left.here
  · rw [publications_handle, publications_handle]
    exact Target.publications_congr alike apart.proper apart.root apart.file (agree.related u) targets
      (fun v member => spares (file_mem_accept member))
      (fun v member => spares' (file_mem_accept member)) room room'
  · rw [queries_handle, queries_handle]
    exact queries

/-- Handling a notice about other documents changes nothing for the document. -/
theorem Level.handle_other (level : Level u temporary here s t) (apart : u.Apart temporary here)
    (same : sur.temporary = temporary) (spares : n.checksFiles = true → sur.Spares)
    (dropped : n.only? u = none) :
    Level u temporary here (s.handle sur n).1 t ∧
      (Event.publications (s.handle sur n).2).filter (fun p => p.uri = u) = [] ∧
      (Event.queries (s.handle sur n).2).filter (fun w => w = u) = [] := by
  obtain ⟨agree, alike, rfl⟩ := level
  subst same
  obtain ⟨after, targets, queries⟩ := agree.accept_other dropped sur
  have left := alike_handle apart.proper spares
  refine ⟨⟨?_, ?_, ?_⟩, ?_, ?_⟩
  · rw [handle_eq]
    exact ⟨after.session, after.document, after.distinct, after.distinct'⟩
  · exact left.symm.trans alike
  · exact left.here
  · have unchecked : (Target.checkAll sur s.files (s.accept sur n).2.2).filter
        (fun tc => tc.1.uri = u) = [] := by
      have own := Target.filter_checkAll sur s.files (fun x => x.uri = u) (s.accept sur n).2.2
      rw [targets] at own
      exact List.map_eq_nil_iff.mp own
    rw [publications_handle, List.filter_map]
    exact congrArg (List.map _) unchecked
  · rw [queries_handle]
    exact queries

/-! ## Runs -/

/-- There is room for every copy of a document that a call makes. -/
def Fits (u : Uri) (s : Service) (c : Call) : Prop :=
  match c.operation with
  | .notice n => Target.AllFit c.surroundings u s.files (s.accept c.surroundings n).2.2
  | _ => True

/-- There is room for every copy of a document that a run makes. -/
def AllFit (u : Uri) (s : Service) : List Call → Prop
  | [] => True
  | c :: later => s.Fits u c ∧ (s.perform c).1.AllFit u later

/-- A call that is about the document comes to the same for it. -/
theorem Level.perform {c c' : Call} (level : Level u temporary here s t)
    (apart : u.Apart temporary here) (orderly : c.Orderly temporary) (kept : c.only? u = some c')
    (room : s.Fits u c) (room' : t.Fits u c') :
    Level u temporary here (s.perform c).1 (t.perform c').1 ∧
      (Event.publications (s.perform c).2).filter (fun p => p.uri = u) =
        (Event.publications (t.perform c').2).filter (fun p => p.uri = u) ∧
      (Event.queries (s.perform c).2).filter (fun w => w = u) =
        (Event.queries (t.perform c').2).filter (fun w => w = u) := by
  obtain ⟨sur, operation⟩ := c
  cases operation with
  | notice n =>
      obtain ⟨n', about, rfl⟩ := Option.map_eq_some_iff.mp kept
      exact level.handle apart orderly.temporary (orderly.spares rfl) about room room'
  | handshake features =>
      obtain rfl := Option.some.inj kept
      obtain ⟨⟨session, document, distinct, distinct'⟩, alike, here⟩ := level
      simp only [Service.perform, handshake]
      generalize shaken : s.session = a at session
      generalize shaken' : t.session = b at session
      cases session with
      | before =>
          refine ⟨⟨⟨?_, document, distinct, distinct'⟩, alike, here⟩, rfl, rfl⟩
          exact .during (Resolver.prompt_start _) (Resolver.prompt_start _) rfl rfl
      | during prompt prompt' mode known =>
          refine ⟨⟨⟨?_, document, distinct, distinct'⟩, alike, here⟩, rfl, rfl⟩
          rw [shaken, shaken']
          exact .during prompt prompt' mode known
  | complete v p =>
      simp only [Call.only?, Option.ite_none_right_eq_some, Option.some.injEq] at kept
      obtain ⟨-, rfl⟩ := kept
      exact ⟨level, rfl, rfl⟩
  | put place entry =>
      obtain rfl := Option.some.inj kept
      exact ⟨⟨⟨level.agree.session, level.agree.document, level.agree.distinct,
        level.agree.distinct'⟩, level.alike.put, level.here⟩, rfl, rfl⟩
  | remove place =>
      obtain rfl := Option.some.inj kept
      exact ⟨⟨⟨level.agree.session, level.agree.document, level.agree.distinct,
        level.agree.distinct'⟩, level.alike.removeTree, level.here⟩, rfl, rfl⟩

/-- A call that is about other documents changes nothing for the document. -/
theorem Level.perform_other {c : Call} (level : Level u temporary here s t)
    (apart : u.Apart temporary here) (orderly : c.Orderly temporary) (dropped : c.only? u = none) :
    Level u temporary here (s.perform c).1 t ∧
      (Event.publications (s.perform c).2).filter (fun p => p.uri = u) = [] ∧
      (Event.queries (s.perform c).2).filter (fun w => w = u) = [] := by
  obtain ⟨sur, operation⟩ := c
  cases operation with
  | notice n =>
      exact level.handle_other apart orderly.temporary (orderly.spares rfl)
        (Option.map_eq_none_iff.mp dropped)
  | complete v p => exact ⟨level, rfl, rfl⟩
  | handshake features => cases dropped
  | put place entry => cases dropped
  | remove place => cases dropped

/-- A run comes to the same for the document without the calls about others. -/
theorem Level.performAll {calls : List Call} (level : Level u temporary here s t)
    (apart : u.Apart temporary here) (orderly : ∀ c ∈ calls, c.Orderly temporary)
    (room : s.AllFit u calls) (room' : t.AllFit u (calls.filterMap (Call.only? u))) :
    let whole := s.performAll calls
    let alone := t.performAll (calls.filterMap (Call.only? u))
    (Event.publications whole.2).filter (fun p => p.uri = u) =
        (Event.publications alone.2).filter (fun p => p.uri = u) ∧
      whole.1.store.get? u = alone.1.store.get? u ∧
      (Event.queries whole.2).filter (fun w => w = u) =
        (Event.queries alone.2).filter (fun w => w = u) := by
  induction calls generalizing s t with
  | nil => exact ⟨rfl, level.agree.document.symm, rfl⟩
  | cons c later ih =>
      have first := orderly c List.mem_cons_self
      have rest : ∀ c ∈ later, c.Orderly temporary :=
        fun c member => orderly c (List.mem_cons_of_mem _ member)
      cases kept : c.only? u with
      | none =>
          rw [List.filterMap_cons_none kept] at room' ⊢
          obtain ⟨level, publishes, asks⟩ := level.perform_other apart first kept
          obtain ⟨publications, document, queries⟩ := ih level rest room.2 room'
          simp only [Service.performAll, Event.publications_append, Event.queries_append,
            List.filter_append, publishes, asks, List.nil_append]
          exact ⟨publications, document, queries⟩
      | some c' =>
          rw [List.filterMap_cons_some kept] at room' ⊢
          obtain ⟨level, publishes, asks⟩ := level.perform apart first kept room.1 room'.1
          obtain ⟨publications, document, queries⟩ := ih level rest room.2 room'.2
          simp only [Service.performAll, Event.publications_append, Event.queries_append,
            List.filter_append, publishes, asks]
          exact ⟨by rw [publications], document, by rw [queries]⟩

end Service

end Kickstart
