/-
# Kickstart.Proofs.Service.Interleaving -- validations at once do not mix

Handlers overtake each other at every point where they wait, and the configuration handler
holds copies of many documents.  Still nothing mixes, because a work carries its own copy
of its document from the moment the store held it, and its own workspace from the moment
it was made.  `Scene.Sound` says so of a scene as a whole: workspaces differ and stand
well, every work that is left is accounted for by the moments of its own handler, and
every moment of the log went right.  Each kind of step keeps it (`Sound.step`), so it holds
of all scenes that are reached (`Reached.sound`).
-/
import Kickstart.Proofs.Service.Triggers
import Kickstart.Proofs.Service.Workspaces

namespace Kickstart

set_option autoImplicit false

open Files Scratch

theorem Event.Quiet.not_ran {events : List Event} (quiet : Event.Quiet events) (r : Run) :
    Event.ran r ∉ events := by
  intro ran
  have counted : r ∈ Event.runs events := List.mem_filterMap.mpr ⟨_, ran, rfl⟩
  rw [quiet.1] at counted
  cases counted

theorem Event.Quiet.not_published {events : List Event} (quiet : Event.Quiet events)
    (p : Publication) : Event.published p ∉ events := by
  intro published
  have counted : p ∈ Event.publications events := List.mem_filterMap.mpr ⟨_, published, rfl⟩
  rw [quiet.2] at counted
  cases counted

namespace Work

variable {sur : Surroundings} {seed : Nat} {s : Service} {x : Work}

theorem quiet_conclude (u : Uri) (version : Option Int) (verdict : Verdict) :
    Event.Quiet (conclude s u version verdict).events := by
  rw [conclude_eq]
  cases verdict with
  | ok report => exact ⟨rfl, rfl⟩
  | error failure => exact Event.quiet_warned [.validationFailed u failure]

/-- What a step tells: a run of the validator, on a copy or on a file, or a publication, or neither. -/
theorem events_advance (sur : Surroundings) (seed : Nat) (s : Service) (x : Work) :
    Event.Quiet (x.advance sur seed s).events ∨
      (∃ d w, x = .judge d w ∧
        (x.advance sur seed s).events = [.ran (Validator.recordOf s.files w.inputPath)]) ∨
      (∃ u run, x = .judgeFile u ∧ u.isFile = true ∧
        (x.advance sur seed s).events = [.ran run]) ∨
      ∃ p, x = .publish p ∧ (x.advance sur seed s).events = [.published p] := by
  cases x with
  | afterChange d => exact .inl (Service.quiet_learnSettings sur d.uri s)
  | afterSave u => exact .inl (Service.quiet_learnSettings sur u s)
  | copy d =>
      left
      simp only [advance]
      split
      · split
        · exact ⟨rfl, rfl⟩
        · exact quiet_conclude _ _ _
      · exact quiet_conclude _ _ _
  | fill d w =>
      left
      simp only [advance, step]
      split
      · exact ⟨rfl, rfl⟩
      · exact quiet_conclude _ _ _
  | judge d w => exact .inr (.inl ⟨d, w, rfl, rfl⟩)
  | settle d w conduct => exact .inl ⟨rfl, rfl⟩
  | tidy d w verdict =>
      left
      simp only [advance, step]
      split
      · exact quiet_conclude _ _ _
      · exact quiet_conclude _ _ _
  | judgeFile u =>
      simp only [advance, step]
      split
      · rename_i file
        split
        · exact .inl (quiet_conclude _ _ _)
        · exact .inr (.inr (.inl ⟨u, _, rfl, file, rfl⟩))
      · exact .inl (quiet_conclude _ _ _)
  | settleFile u path conduct => exact .inl (quiet_conclude _ _ _)
  | publish p => exact .inr (.inr (.inr ⟨p, rfl, rfl⟩))

end Work

/-! ## What the log tells -/

namespace Scene

variable {log before : List Moment} {h : Nat} {d : Document} {w : Scratch} {x y : Work}

/-- At some moment of the handler the store held the document. -/
def Held (log : List Moment) (h : Nat) (d : Document) : Prop :=
  ∃ m ∈ log, m.handler = h ∧ m.service.store.get? d.uri = some d

/-- The handler ran the validator on a copy of the document, with that verdict on its
text. -/
def Ran (log : List Moment) (h : Nat) (d : Document) (w : Scratch) (verdict : Verdict) : Prop :=
  ∃ m ∈ log, m.handler = h ∧ m.deed = .step (.judge d w) ∧
    verdict = (m.surroundings.validator.judge d.text).verdict

/-- The handler failed to check the document, and said so. -/
def Failed (log : List Moment) (h : Nat) (d : Document) : Prop :=
  ∃ m ∈ log, m.handler = h ∧ ∃ x failure, m.deed = .step x ∧ x.document? = some d ∧
    Event.warned (.validationFailed d.uri failure) ∈ m.events

/-- The handler checked the document with these diagnostics: none if it failed, else what
its run on the document means. -/
def Checked (log : List Moment) (h : Nat) (d : Document) (found : List Diagnostic) : Prop :=
  Failed log h d ∧ found = [] ∨
    ∃ w verdict, Ran log h d w verdict ∧ ∃ m ∈ log, m.handler = h ∧
      m.deed = .step (.tidy d w verdict) ∧
      found = Verdict.diagnostics (Work.relatedTo m.service d.uri) verdict

/-- The publication is what the handler came to on a document that the store held, under
that document's version: what it found when it checked a file, and nothing on a document
that is no file. -/
def Explained (log : List Moment) (h : Nat) (p : Publication) : Prop :=
  ∃ d, Held log h d ∧ d.uri = p.uri ∧ p.version = some d.version ∧
    if d.uri.isFile then Checked log h d p.diagnostics else p.diagnostics = []

/-- What the log tells about a work of a handler.  Workspaces are made for files only. -/
def Accounted (log : List Moment) (h : Nat) : Work → Prop
  | .afterChange d => Held log h d
  | .copy d => Held log h d
  | .fill d _ => Held log h d ∧ d.uri.isFile
  | .judge d _ => Held log h d ∧ d.uri.isFile
  | .settle d w conduct => Held log h d ∧ d.uri.isFile ∧ Ran log h d w conduct.verdict
  | .tidy d w verdict => Held log h d ∧ d.uri.isFile ∧ Ran log h d w verdict
  | .publish p => ∀ v, p.version = some v → Explained log h p
  | _ => True

/-- A moment that went right: a run in a workspace is on a document of its own handler that is
a file, and finds that document in the copy; there is no other run on a document, and every run on
disk is on a file; and a publication under a version is explained by what its handler did
before. -/
structure Right (before : List Moment) (m : Moment) : Prop where
  judged : ∀ d w, m.deed = .step (.judge d w) →
    m.service.files.readText? w.inputPath = some d.text ∧ Held before m.handler d ∧
      d.uri.isFile = true
  ran : ∀ r, Event.ran r ∈ m.events →
    (∃ d w, m.deed = .step (.judge d w) ∧ r = ⟨w.inputPath.text, true, some d.text⟩) ∨
      ∃ u, m.deed = .step (.judgeFile u) ∧ u.isFile = true
  publication : ∀ p v, Event.published p ∈ m.events → p.version = some v →
    Explained before m.handler p

theorem Held.more (held : Held log h d) (more : List Moment) : Held (log ++ more) h d := by
  obtain ⟨m, member, rest⟩ := held
  exact ⟨m, List.mem_append_left _ member, rest⟩

theorem Ran.more {verdict : Verdict} (ran : Ran log h d w verdict) (more : List Moment) :
    Ran (log ++ more) h d w verdict := by
  obtain ⟨m, member, rest⟩ := ran
  exact ⟨m, List.mem_append_left _ member, rest⟩

theorem Checked.more {found : List Diagnostic} (checked : Checked log h d found)
    (more : List Moment) : Checked (log ++ more) h d found := by
  rcases checked with ⟨⟨m, member, failed⟩, nothing⟩ | ⟨w, verdict, ran, m, member, tidied⟩
  · exact .inl ⟨⟨m, List.mem_append_left _ member, failed⟩, nothing⟩
  · exact .inr ⟨w, verdict, ran.more more, m, List.mem_append_left _ member, tidied⟩

theorem Explained.more {p : Publication} (explained : Explained log h p) (more : List Moment) :
    Explained (log ++ more) h p := by
  obtain ⟨d, held, uri, version, came⟩ := explained
  refine ⟨d, held.more more, uri, version, ?_⟩
  split at came
  · rw [if_pos ‹_›]
    exact came.more more
  · rw [if_neg ‹_›]
    exact came

theorem Accounted.more (accounted : Accounted log h x) (more : List Moment) :
    Accounted (log ++ more) h x := by
  cases x with
  | afterChange d => exact Held.more accounted more
  | copy d => exact Held.more accounted more
  | fill d w => exact ⟨accounted.1.more more, accounted.2⟩
  | judge d w => exact ⟨accounted.1.more more, accounted.2⟩
  | settle d w conduct => exact ⟨accounted.1.more more, accounted.2.1, accounted.2.2.more more⟩
  | tidy d w verdict => exact ⟨accounted.1.more more, accounted.2.1, accounted.2.2.more more⟩
  | publish p => exact fun v version => (accounted v version).more more
  | _ => trivial

/-! ## What a step adds to the log -/

variable {sur : Surroundings} {seed : Nat} {s : Service}

/-- The moment of a step. -/
def momentOf (sur : Surroundings) (seed : Nat) (s : Service) (h : Nat) (x : Work) : Moment :=
  ⟨h, .step x, sur, (x.advance sur seed s).service, (x.advance sur seed s).events⟩

/-- What a check found is explained by the check. -/
theorem accounted_checked {found : List Diagnostic} (held : Held log h d) (file : d.uri.isFile)
    (checked : Checked log h d found) : Accounted log h (.publish ⟨d.uri, found, some d.version⟩) :=
  fun _ _ => ⟨d, held, rfl, rfl, by rwa [if_pos file]⟩

/-- Where a step fails it says so, and nothing is found. -/
theorem accounted_failed {m : Moment} {t : Service} {failure : Failure} (held : Held log h d)
    (file : d.uri.isFile) (mine : m.handler = h) (deed : m.deed = .step x)
    (about : x.document? = some d)
    (warns : Event.warned (.validationFailed d.uri failure) ∈ m.events) :
    Accounted (log ++ [m]) h
      (.publish ⟨d.uri, Verdict.diagnostics (Work.relatedTo t d.uri) (.error failure),
        some d.version⟩) :=
  accounted_checked (held.more _) file <| .inl
    ⟨⟨m, List.mem_append_right _ List.mem_cons_self, mine, x, failure, deed, about, warns⟩, rfl⟩

/-- What is left after a step is accounted for. -/
theorem accounted_advance (accounted : Accounted log h x)
    (filled : ∀ d w, x = .judge d w → s.files.readText? w.inputPath = some d.text)
    (after : (x.advance sur seed s).next = some y) :
    Accounted (log ++ [momentOf sur seed s h x]) h y := by
  cases x with
  | afterChange d =>
      simp only [Work.advance, Work.step] at after
      split at after
      · obtain rfl := Option.some.inj after
        exact Held.more accounted _
      · cases after
  | afterSave u =>
      simp only [Work.advance, Work.step] at after
      split at after
      · obtain rfl := Option.some.inj after
        trivial
      · obtain rfl := Option.some.inj after
        exact fun v version => by cases version
  | copy d =>
      have held : Held log h d := accounted
      cases file : d.uri.isFile with
      | false =>
          simp only [Work.advance, file, Work.conclude_eq] at after
          obtain rfl := Option.some.inj after
          exact fun _ _ => ⟨d, held.more _, rfl, rfl, by simp [file, Verdict.diagnostics]⟩
      | true =>
          cases created : sur.createFrom seed s.files with
          | ok made =>
              simp only [Work.advance, file, if_true, created] at after
              obtain rfl := Option.some.inj after
              exact ⟨held.more _, file⟩
          | error fault =>
              simp only [Work.advance, file, if_true, created, Work.conclude_eq] at after
              obtain rfl := Option.some.inj after
              refine accounted_failed held file rfl rfl rfl ?_
              simp [momentOf, Work.advance, file, created, Work.conclude_eq]
  | fill d w =>
      obtain ⟨held, file⟩ := accounted
      cases written : sur.write s.files w d.text with
      | ok files =>
          simp only [Work.advance, Work.step, written] at after
          obtain rfl := Option.some.inj after
          exact ⟨held.more _, file⟩
      | error fault =>
          simp only [Work.advance, Work.step, written, Work.conclude_eq] at after
          obtain rfl := Option.some.inj after
          refine accounted_failed held file rfl rfl rfl ?_
          simp [momentOf, Work.advance, Work.step, written, Work.conclude_eq]
  | judge d w =>
      obtain rfl := Option.some.inj after
      obtain ⟨held, file⟩ := accounted
      have seen : Validator.seen s.files w.inputPath = d.text := seen_of_readText? (filled d w rfl)
      refine ⟨held.more _, file, _, List.mem_append_right _ List.mem_cons_self, rfl, rfl, ?_⟩
      rw [seen]
      rfl
  | settle d w conduct =>
      obtain rfl := Option.some.inj after
      exact ⟨accounted.1.more _, accounted.2.1, accounted.2.2.more _⟩
  | tidy d w verdict =>
      obtain ⟨held, file, ran⟩ := accounted
      cases closed : sur.close s.files w with
      | ok files =>
          simp only [Work.advance, Work.step, closed, Work.conclude_eq] at after
          obtain rfl := Option.some.inj after
          refine accounted_checked (held.more _) file (.inr ⟨w, verdict, ran.more _, ?_⟩)
          refine ⟨_, List.mem_append_right _ List.mem_cons_self, rfl, rfl, ?_⟩
          simp [momentOf, Work.advance, Work.step, closed, Work.conclude_eq]
      | error fault =>
          simp only [Work.advance, Work.step, closed, Work.conclude_eq] at after
          obtain rfl := Option.some.inj after
          refine accounted_failed held file rfl rfl rfl ?_
          simp [momentOf, Work.advance, Work.step, closed, Work.conclude_eq]
  | judgeFile u =>
      simp only [Work.advance, Work.step, Work.conclude_eq] at after
      split at after
      · split at after
        · obtain rfl := Option.some.inj after
          exact fun v version => by cases version
        · obtain rfl := Option.some.inj after
          trivial
      · obtain rfl := Option.some.inj after
        exact fun v version => by cases version
  | settleFile u path conduct =>
      simp only [Work.advance, Work.step, Work.conclude_eq] at after
      obtain rfl := Option.some.inj after
      exact fun v version => by cases version
  | publish p => cases after

/-- The moment of a step goes right. -/
theorem right_advance (accounted : Accounted log h x)
    (filled : ∀ d w, x = .judge d w → s.files.readText? w.inputPath = some d.text) :
    Right log (momentOf sur seed s h x) := by
  have told := Work.events_advance sur seed s x
  refine ⟨fun d w deed => ?_, fun r (ran : _ ∈ (x.advance sur seed s).events) => ?_,
    fun p v (published : _ ∈ (x.advance sur seed s).events) version => ?_⟩
  · obtain rfl := Deed.step.inj deed
    exact ⟨filled d w rfl, accounted⟩
  · rcases told with quiet | ⟨d, w, rfl, only⟩ | ⟨u, run, rfl, file, -⟩ | ⟨p, -, only⟩
    · exact absurd ran (quiet.not_ran r)
    · rw [only, List.mem_singleton, Scratch.recordOf_of_readText? (filled d w rfl)] at ran
      exact .inl ⟨d, w, rfl, Event.ran.inj ran⟩
    · exact .inr ⟨u, rfl, file⟩
    · rw [only, List.mem_singleton] at ran
      cases ran
  · rcases told with quiet | ⟨d, w, -, only⟩ | ⟨u, run, -, -, only⟩ | ⟨q, rfl, only⟩
    · exact absurd published (quiet.not_published p)
    · rw [only, List.mem_singleton] at published
      cases published
    · rw [only, List.mem_singleton] at published
      cases published
    · rw [only, List.mem_singleton] at published
      obtain rfl := Event.published.inj published
      exact accounted v version

/-! ## Works at their beginning -/

/-- A work at its beginning: it is about a document as the store holds it, or about a
file. -/
def Begins (store : Store) : Work → Prop
  | .copy d => store.get? d.uri = some d
  | .afterChange d => store.get? d.uri = some d
  | .afterSave _ => True
  | .judgeFile _ => True
  | _ => False

theorem Begins.free {store : Store} (begins : Begins store x) : x.workspace? = none := by
  cases x with
  | fill d w => exact begins.elim
  | judge d w => exact begins.elim
  | settle d w conduct => exact begins.elim
  | tidy d w verdict => exact begins.elim
  | _ => rfl

/-- The moment at which a work begins accounts for it. -/
theorem Begins.accounted {m : Moment} (begins : Begins m.service.store x) (mine : m.handler = h) :
    Accounted (log ++ [m]) h x := by
  have held {d : Document} (found : m.service.store.get? d.uri = some d) : Held (log ++ [m]) h d :=
    ⟨m, List.mem_append_right _ List.mem_cons_self, mine, found⟩
  cases x with
  | copy d => exact held begins
  | afterChange d => exact held begins
  | afterSave u => trivial
  | judgeFile u => trivial
  | _ => exact begins.elim

/-- What a notice does at once: it changes the store, never the files, and leaves works at
their beginning. -/
theorem receive_spec {s : Service} (distinct : s.store.Distinct) (n : Notice) :
    (s.receive n).service.files = s.files ∧ (s.receive n).service.store.Distinct ∧
      Event.Quiet (s.receive n).events ∧
      ∀ x ∈ (begin (s.receive n) n).works, Begins (s.receive n).service.store x := by
  have none_left {store : Store} : ∀ x ∈ (Handler.working []).works, Begins store x :=
    fun _ member => by cases member
  have silent : Event.Quiet [] := ⟨rfl, rfl⟩
  have idle : s.files = s.files ∧ s.store.Distinct ∧ Event.Quiet [] ∧
      ∀ x ∈ (Handler.working []).works, Begins s.store x := ⟨rfl, distinct, silent, none_left⟩
  cases n with
  | opened d =>
      simp only [Service.receive, begin]
      split
      · refine ⟨rfl, distinct.insert d, silent, fun x member => ?_⟩
        rw [List.mem_singleton.mp member]
        exact s.store.get?_insert_self d
      · exact idle
  | changed u version edits =>
      simp only [Service.receive, begin]
      split
      · split
        · rename_i d store changed
          obtain ⟨-, -, rfl, -⟩ := Store.change?_eq_some changed
          refine ⟨rfl, distinct.insert d, silent, fun x member => ?_⟩
          rw [List.mem_singleton.mp member]
          exact s.store.get?_insert_self d
        · exact ⟨rfl, distinct, Event.quiet_warned [.unknownDocument u], none_left⟩
      · exact idle
  | saved u =>
      simp only [Service.receive, begin]
      split
      · refine ⟨rfl, distinct, silent, fun x member => ?_⟩
        rw [List.mem_singleton.mp member]
        trivial
      · exact idle
  | closed u => exact ⟨rfl, distinct.erase u, silent, none_left⟩
  | filesChanged changes =>
      simp only [Service.receive, begin]
      split
      · refine ⟨rfl, distinct, silent, fun x member => ?_⟩
        obtain ⟨change, -, rfl⟩ := List.mem_map.mp member
        trivial
      · exact idle
  | configured payload =>
      simp only [Service.receive, begin]
      split
      · exact idle
      · refine ⟨rfl, distinct, ?_, fun _ member => by cases member⟩
        simp only
        unfold Resolver.configurationChanged
        split
        · exact Event.quiet_warned _
        · exact silent

/-! ## What every scene keeps -/

/-- Every moment of a log went right. -/
def Told (log : List Moment) : Prop :=
  ∀ before m after, log = before ++ m :: after → Right before m

theorem Told.snoc {m : Moment} (told : Told log) (right : Right log m) : Told (log ++ [m]) := by
  intro before m' after same
  rcases List.eq_nil_or_concat after with rfl | ⟨init, last, rfl⟩
  · obtain ⟨rfl, last⟩ := List.append_inj' same rfl
    exact List.singleton_inj.mp last ▸ right
  · rw [List.concat_eq_append, ← List.cons_append, ← List.append_assoc] at same
    exact told before m' init (List.append_inj' same rfl).1

/-- What holds of a scene that was reached. -/
structure Sound (root here : Place) (sc : Scene) : Prop where
  here : sc.service.files.here = here
  distinct : sc.service.store.Distinct
  apart : sc.workspaces.Nodup
  settled : ∀ x ∈ sc.works, x.Settled root sc.service.files
  accounted : ∀ h handler, sc.handlers[h]? = some handler → ∀ x ∈ handler.works,
    Accounted sc.log h x
  told : Told sc.log

variable {root here : Place} {sc : Scene}

theorem mem_workspaces : w ∈ sc.workspaces ↔ ∃ x ∈ sc.works, x.workspace? = some w :=
  List.mem_filterMap

/-! ## Steps of a scene -/

/-- A work stands as it stood if the way to its workspace is spared. -/
theorem settled_of_spared {fs fs' : Files} (proper : root.Proper) (settled : x.Settled root fs)
    (here : fs'.here = fs.here) (spared : ∀ w, x.workspace? = some w → Spared fs fs' w) :
    x.Settled root fs' := by
  refine ⟨fun w holds => ?_, ?_⟩
  · obtain ⟨under, directory⟩ := settled.directory w holds
    exact ⟨under, (spared w holds _ w.place_prefix_inputPlace).trans directory⟩
  · rintro d w rfl
    obtain ⟨under, -⟩ := settled.directory w rfl
    rw [← settled.filled d w rfl]
    refine readText?_congr here fun q on_way => spared w rfl q ?_
    exact Path.trail_ofPlace (under.proper_input proper) w.inputPlace_ne_nil on_way

/-- Others do no harm as long as they leave the store and the workspaces alone. -/
theorem Sound.elsewhere {t : Service} (proper : root.Proper) (sound : sc.Sound root here)
    (store : t.store = sc.service.store) (same : t.files.here = sc.service.files.here)
    (spared : ∀ w ∈ sc.workspaces, Spared sc.service.files t.files w) :
    Sound root here { sc with service := t } where
  here := same.trans sound.here
  distinct := store ▸ sound.distinct
  apart := sound.apart
  settled x member := settled_of_spared proper (sound.settled x member) same fun w holds =>
    spared w (mem_workspaces.mpr ⟨x, member, holds⟩)
  accounted := sound.accounted
  told := sound.told

/-- A handler that begins some works. -/
theorem Sound.begins {t : Service} {b : Handler} {deed : Deed} {sur : Surroundings}
    {events : List Event} {handlers : List Handler} (sound : sc.Sound root here)
    (files : t.files = sc.service.files) (distinct : t.store.Distinct)
    (begins : ∀ x ∈ b.works, Begins t.store x)
    (more : (handlers.flatMap Handler.works).Perm (b.works ++ sc.works))
    (others : ∀ k handler, handlers[k]? = some handler →
      k = h ∧ handler = b ∨ sc.handlers[k]? = some handler)
    (starts : ∀ x, deed ≠ .step x) (silent : Event.Quiet events) :
    Sound root here ⟨t, handlers, sc.log ++ [⟨h, deed, sur, t, events⟩]⟩ where
  here := files ▸ sound.here
  distinct := distinct
  apart := by
    have free : b.works.filterMap Work.workspace? = [] :=
      List.filterMap_eq_nil_iff.mpr fun x member => (begins x member).free
    have same := more.filterMap Work.workspace?
    rw [List.filterMap_append, free, List.nil_append] at same
    exact same.nodup_iff.mpr sound.apart
  settled x member := by
    rcases List.mem_append.mp (more.mem_iff.mp member) with new | old
    · exact Work.settled_of_free (begins x new).free
    · exact files ▸ sound.settled x old
  accounted k handler found x member := by
    rcases others k handler found with ⟨rfl, rfl⟩ | old
    · exact (begins x member).accounted rfl
    · exact (sound.accounted k handler old x member).more _
  told := by
    refine sound.told.snoc ⟨fun d w same => absurd same (starts _), fun r ran => ?_,
      fun p v published _ => ?_⟩
    · exact absurd ran (silent.not_ran r)
    · exact absurd published (silent.not_published p)

/-- A handler's works among those of all handlers. -/
theorem works_set {handlers : List Handler} {handler : Handler}
    (waits : handlers[h]? = some handler) :
    ∃ others, (handlers.flatMap Handler.works).Perm (handler.works ++ others) ∧
      ∀ after, ((handlers.set h after).flatMap Handler.works).Perm (after.works ++ others) := by
  obtain ⟨inside, rfl⟩ := List.getElem?_eq_some_iff.mp waits
  have set (after : Handler) : ((handlers.set h after).flatMap Handler.works).Perm
      (after.works ++ (handlers.take h ++ handlers.drop (h + 1)).flatMap Handler.works) := by
    rw [List.set_eq_take_append_cons_drop, if_pos inside, List.flatMap_append, List.flatMap_cons,
      List.flatMap_append]
    exact List.perm_append_comm_assoc _ _ _
  have same := set handlers[h]
  rw [List.set_getElem_self] at same
  exact ⟨_, same, set⟩

/-- The workspaces of works are distinct if no later work holds one of an earlier. -/
theorem nodup_workspaces_cons {works : List Work} :
    ((x :: works).filterMap Work.workspace?).Nodup ↔
      (∀ y ∈ works, ∀ w, x.workspace? = some w → y.workspace? ≠ some w) ∧
        (works.filterMap Work.workspace?).Nodup := by
  cases holds : x.workspace? with
  | none => simp [holds]
  | some w => simp [holds]

/-- What a handler may be found at after another took a step. -/
theorem getElem?_set_cases {handlers : List Handler} {after handler : Handler} {k : Nat}
    (found : (handlers.set h after)[k]? = some handler) :
    k = h ∧ handler = after ∨ handlers[k]? = some handler := by
  rw [List.getElem?_set] at found
  split at found
  · rename_i same
    split at found
    · exact .inl ⟨same.symm, (Option.some.inj found).symm⟩
    · cases found
  · exact .inr found

/-- A handler that takes a step with its first work. -/
theorem Sound.work {sur : Surroundings} {seed : Nat} {rest : List Work} (proper : root.Proper)
    (sound : sc.Sound root here) (waits : sc.handlers[h]? = some (.working (x :: rest)))
    (rooted : sur.temporary.goal here = root)
    (respects : sc.Respects x (x.advance sur seed sc.service).service) :
    (sc.afterWork sur seed h x rest).Sound root here := by
  obtain ⟨others, before, after⟩ := works_set waits
  have mine : x ∈ sc.works := before.mem_iff.mpr List.mem_cons_self
  have kept {y : Work} (left : y ∈ rest ++ others) : y ∈ sc.works :=
    before.mem_iff.mpr (List.mem_cons_of_mem x left)
  -- no other work holds the workspace of this one
  obtain ⟨lone, apart⟩ := nodup_workspaces_cons.mp
    ((before.filterMap Work.workspace?).nodup_iff.mp sound.apart)
  have accounted := sound.accounted h _ waits
  have settled := sound.settled x mine
  have keeps : Work.Keeps root sc.workspaces sc.service x (x.advance sur seed sc.service) := by
    refine Work.advance_keeps proper (sound.here ▸ rooted) settled ?_ ?_
    · rintro d w conduct rfl
      exact respects
    · rintro u path conduct rfl
      exact respects
  have next := after (.working ((x.advance sur seed sc.service).next.toList ++ rest))
  refine ⟨keeps.here.trans sound.here, ?_, ?_, fun y member => ?_,
    fun k handler found y member => ?_,
    sound.told.snoc (right_advance (accounted x List.mem_cons_self) settled.filled)⟩
  · exact keeps.store.symm ▸ sound.distinct
  · refine (next.filterMap Work.workspace?).nodup_iff.mpr ?_
    cases goes_on : (x.advance sur seed sc.service).next with
    | none => exact apart
    | some y =>
        refine nodup_workspaces_cons.mpr ⟨fun z left w holds clash => ?_, apart⟩
        rcases keeps.origin y w goes_on holds with own | ⟨-, free⟩
        · exact lone z left w own clash
        · have there := ((sound.settled z (kept left)).directory w clash).2
          rw [free] at there
          cases there
  · have member := next.mem_iff.mp member
    simp only [Handler.works, List.append_assoc] at member
    rcases List.mem_append.mp member with new | left
    · exact keeps.next y (Option.mem_toList.mp new)
    · have stands := sound.settled y (kept left)
      refine settled_of_spared proper stands keeps.here fun w holds => ?_
      obtain ⟨under, directory⟩ := stands.directory w holds
      exact keeps.others w (mem_workspaces.mpr ⟨y, kept left, holds⟩) under
        (fun own => lone y left w own holds) directory
  · rcases getElem?_set_cases found with ⟨rfl, rfl⟩ | old
    · rcases List.mem_append.mp member with new | left
      · exact accounted_advance (accounted x List.mem_cons_self) settled.filled
          (Option.mem_toList.mp new)
      · exact (accounted y (List.mem_cons_of_mem x left)).more _
    · exact (sound.accounted k handler old y member).more _

/-- Every step keeps a scene sound. -/
theorem Sound.step {temporary : Path} {next : Scene} (proper : here.Proper)
    (sound : sc.Sound (temporary.goal here) here) (step : Step temporary sc next) :
    next.Sound (temporary.goal here) here := by
  have proper := Path.proper_goal proper temporary
  cases step with
  | handshake validator features =>
      refine sound.elsewhere proper ?_ ?_ fun w _ q _ => ?_ <;>
        (unfold Service.handshake; split <;> rfl)
  | receive sur n =>
      obtain ⟨files, distinct, silent, begins⟩ := receive_spec sound.distinct n
      refine sound.begins files distinct begins ?_ (fun k handler found => ?_)
        (fun _ => Deed.noConfusion) silent
      · rw [List.flatMap_append, List.flatMap_singleton]
        exact List.perm_append_comm
      · rcases Nat.lt_or_ge k sc.handlers.length with inside | beyond
        · rw [List.getElem?_append_left inside] at found
          exact .inr found
        · rw [List.getElem?_append_right beyond, List.getElem?_singleton] at found
          split at found
          · exact .inl ⟨by omega, (Option.some.inj found).symm⟩
          · cases found
  | survey sur h waits =>
      obtain ⟨others, before, after⟩ := works_set waits
      refine sound.begins rfl sound.distinct (b := .working (survey sc.service)) (fun x member => ?_)
        ((after _).trans (before.symm.append_left _)) (fun _ _ => getElem?_set_cases)
        (fun _ => Deed.noConfusion) ⟨rfl, rfl⟩
      simp only [Handler.works, survey] at member
      split at member
      · obtain ⟨d, stored, rfl⟩ := List.mem_map.mp member
        exact sound.distinct.get?_of_mem stored
      · cases member
  | work sur seed h x rest waits same respects =>
      exact sound.work proper waits (same ▸ rfl) respects
  | outside files here spared => exact sound.elsewhere proper rfl here spared

/-- Every scene that is reached is sound. -/
theorem Reached.sound {temporary : Path} {files : Files} (proper : files.here.Proper)
    (reached : Reached temporary files sc) : sc.Sound (temporary.goal files.here) files.here := by
  induction reached with
  | start =>
      refine ⟨rfl, Store.distinct_empty, List.nodup_nil, ?_, ?_, ?_⟩
      · exact fun x member => absurd member List.not_mem_nil
      · exact fun h handler found => by cases found
      · intro before m after same
        have none : before ++ m :: after = [] := same.symm
        simp at none
  | step before step ih => exact ih.step proper step

/-! ## Validations do not mix -/

/-- Whatever order handlers take their steps in, their validations do not mix.  No two works
hold the same workspace; a run in a workspace is on a document that is a file and that the store
held at a moment of the handler before, and finds its text in the copy; and what is published
under a version is what its handler came to on a document that the store held under that version
at a moment of the handler before.  Documents that are no files are not checked: nothing is run
but on copies of documents that are files and on files on disk, and nothing is found in a document
that is no file.

New workspaces get names that are free, and nobody touches a workspace but the validation
that holds it. -/
theorem interleaved_validations_do_not_mix {temporary : Path} {files : Files}
    (proper : files.here.Proper) (reached : Reached temporary files sc) :
    sc.workspaces.Nodup ∧
      ∀ before m after, sc.log = before ++ m :: after →
        (∀ d w, m.deed = .step (.judge d w) →
          m.service.files.readText? w.inputPath = some d.text ∧ Held before m.handler d ∧
            d.uri.isFile = true) ∧
        (∀ r, Event.ran r ∈ m.events →
          (∃ d w, m.deed = .step (.judge d w) ∧ r = ⟨w.inputPath.text, true, some d.text⟩) ∨
            ∃ u, m.deed = .step (.judgeFile u) ∧ u.isFile = true) ∧
        ∀ p v, Event.published p ∈ m.events → p.version = some v →
          Explained before m.handler p := by
  have sound := reached.sound proper
  refine ⟨sound.apart, fun before m after same => ?_⟩
  have right := sound.told before m after same
  exact ⟨right.judged, right.ran, right.publication⟩

/-- A document is opened anew while it is checked.  What is published then is still what was
found in the first text, under the first version. -/
theorem interleaved_validations_do_not_mix_reopened :
    let u : Uri := ⟨"file", some ⟨"", "", none⟩, .rooted ["a.ks"], none, none⟩
    let first : Document := ⟨u, 1, ['a']⟩
    let second : Document := ⟨u, 2, ['b']⟩
    let p : Publication := ⟨u, Report.diagnostics first.text none, some 1⟩
    ∃ sc before m, (default : Files).here.Proper ∧ Reached (.ofPlace []) default sc ∧
      sc.log = before ++ [m] ∧ m.service.store.get? u = some second ∧
      sc.workspaces = [⟨[name 1]⟩] ∧ Event.published p ∈ m.events ∧
      Explained before m.handler p := by
  intro u first second p
  let echo : Surroundings :=
    ⟨⟨true, fun text => .plain (.ok (some text))⟩, fun _ => .ok none, .ofPlace [], .none⟩
  let now (fs : Files) : Service := ⟨⟨[second]⟩, some ⟨.none, true, .global .default⟩, fs⟩
  let At (handlers : List Handler) (fs : Files) : Prop :=
    ∃ log, Reached (.ofPlace []) default ⟨now fs, handlers, log⟩
  -- one step of one of the two handlers, each with a number for a workspace of its own
  have goes_on (h : Nat) (x y : Work) (after : Files) {fs : Files} {handlers : List Handler}
      (reached : At handlers fs) (waits : handlers[h]? = some (.working [x]))
      (steps : x.advance echo h (now fs) =
        ⟨now after, (x.advance echo h (now fs)).events, some y⟩)
      (respects : ∀ log, Respects ⟨now fs, handlers, log⟩ x (now after)) :
      At (handlers.set h (.working [y])) after := by
    obtain ⟨log, reached⟩ := reached
    have step := reached.step (.work _ echo h h x [] waits rfl (by rw [steps]; exact respects log))
    rw [afterWork, steps] at step
    exact ⟨_, step⟩
  have copies {d : Document} {h : Nat} {w : Scratch} {fs after : Files} (file : d.uri.isFile = true)
      (made : Scratch.create fs (.ofPlace []) h = .ok (w, after)) :
      (Work.copy d).advance echo h (now fs) = ⟨now after, [], some (.fill d w)⟩ := by
    have created : echo.createFrom h (now fs).files = .ok (w, after) := made
    simp only [Work.advance, file, if_true, created, now]
  have made_first : Scratch.create default (.ofPlace []) 0 =
      .ok (⟨[name 0]⟩, ⟨[([name 0], .directory)], []⟩) := by rfl
  have made_second : Scratch.create ⟨[([name 0], .directory)], []⟩ (.ofPlace []) 1 =
      .ok (⟨[name 1]⟩, ⟨[([name 0], .directory), ([name 1], .directory)], []⟩) := by rfl
  have reached : At [.working [.copy first], .working [.copy second]] default :=
    ⟨_, ((Reached.start.step (.handshake _ echo.validator .none)).step
      (.receive _ echo (.opened first))).step (.receive _ echo (.opened second))⟩
  have reached := goes_on 0 (.copy first) (.fill first ⟨[name 0]⟩) ⟨[([name 0], .directory)], []⟩
    reached rfl (by rw [copies rfl made_first]) fun _ => trivial
  have reached := goes_on 1 (.copy second) (.fill second ⟨[name 1]⟩)
    ⟨[([name 0], .directory), ([name 1], .directory)], []⟩ reached rfl
    (by rw [copies rfl made_second]) fun _ => trivial
  have reached := goes_on 0 (.fill first ⟨[name 0]⟩) (.judge first ⟨[name 0]⟩)
    ⟨[([name 0], .directory), ([name 1], .directory), ([name 0, inputName], .file [97] false)], []⟩
    reached rfl (by rfl) fun _ => trivial
  have reached := goes_on 0 (.judge first ⟨[name 0]⟩)
    (.settle first ⟨[name 0]⟩ (.plain (.ok (some ['a'])))) _ reached rfl (by rfl) fun _ => trivial
  have reached := goes_on 0 (.settle first ⟨[name 0]⟩ (.plain (.ok (some ['a']))))
    (.tidy first ⟨[name 0]⟩ (.ok (some ['a']))) _ reached rfl (by rfl) fun _ => rfl
  obtain ⟨log, reached⟩ := goes_on 0 (.tidy first ⟨[name 0]⟩ (.ok (some ['a']))) (.publish p)
    ⟨[([name 1], .directory)], []⟩ reached rfl (by rfl) fun _ => trivial
  have published := reached.step (.work _ echo 0 0 (.publish p) [] rfl rfl trivial)
  have explained := ((interleaved_validations_do_not_mix (by decide) published).2 _ _ [] rfl).2.2 p 1
    List.mem_cons_self rfl
  exact ⟨_, _, _, by decide, published, rfl, rfl, rfl, List.mem_cons_self, explained⟩

/-- A document that is no file is published without a check: the handler neither failed nor
ran, and what the validator says to the text is not what was published. -/
theorem unnamed_document_published_unchecked :
    let u : Uri := ⟨"untitled", none, .bare "a", none, none⟩
    let d : Document := ⟨u, 1, ['a']⟩
    let strict : Surroundings := ⟨⟨true, fun _ => .plain (.ok (some "on line 2 of\nx".toList))⟩,
      fun _ => .ok none, .ofPlace [], .none⟩
    ∃ sc before m, Reached (.ofPlace []) default sc ∧ sc.log = before ++ [m] ∧
      (∀ n ∈ sc.log, n.surroundings = strict) ∧ Event.published ⟨u, [], some 1⟩ ∈ m.events ∧
      Held before m.handler d ∧
      ¬ ∃ e, Held before m.handler e ∧ e.uri = u ∧ e.version = 1 ∧
        (Checked before m.handler e [] ∨
          [] = Verdict.diagnostics none (strict.validator.judge e.text).verdict) := by
  intro u d strict
  let now : Service := ⟨⟨[d]⟩, some ⟨.none, true, .global .default⟩, default⟩
  let before : List Moment :=
    [⟨0, .receive (.opened d), strict, now, []⟩, ⟨0, .step (.copy d), strict, now, []⟩]
  have copied : Reached (.ofPlace []) default
      ⟨now, [.working [.publish ⟨u, [], some 1⟩]], before⟩ :=
    ((Reached.start.step (.handshake _ strict.validator .none)).step
      (.receive _ strict (.opened d))).step (.work _ strict 0 0 (.copy d) [] rfl rfl trivial)
  have published := copied.step (.work _ strict 0 0 (.publish ⟨u, [], some 1⟩) [] rfl rfl trivial)
  refine ⟨_, before, _, published, rfl, fun n member => ?_, List.mem_cons_self,
    ⟨_, List.mem_cons_self, rfl, rfl⟩, ?_⟩
  · simp only [afterWork, before, List.cons_append, List.nil_append, List.mem_cons,
      List.not_mem_nil, or_false] at member
    rcases member with rfl | rfl | rfl <;> rfl
  · have silent {n : Moment} (member : n ∈ before) :
        n.events = [] ∧ ∀ e w, n.deed ≠ .step (.judge e w) := by
      simp only [before, List.mem_cons, List.not_mem_nil, or_false] at member
      rcases member with rfl | rfl <;> exact ⟨rfl, fun e w same => by cases same⟩
    have complains : Report.diagnostics "on line 2 of\nx".toList none ≠ [] := by decide
    rintro ⟨e, -, -, -, (⟨failed, -⟩ | ⟨w, verdict, ran, -⟩) | same⟩
    · obtain ⟨n, member, -, x, failure, -, -, warns⟩ := failed
      rw [(silent member).1] at warns
      cases warns
    · obtain ⟨n, member, -, runs, -⟩ := ran
      exact (silent member).2 e w runs
    · exact complains same.symm

end Scene

end Kickstart
