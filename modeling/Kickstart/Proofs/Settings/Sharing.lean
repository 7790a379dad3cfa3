/-
# Kickstart.Proofs.Settings.Sharing -- callers, answers and invalidations in any order

Callers ask the cache for settings, answers come, lookups are forgotten, and all of it
may happen in any order (`Step`, `Run`).  A caller that starts joins the lookup that
serves its URI or begins one, which sends one query; an answer, any answer, comes to a
lookup that is still pending; a caller receives when it looks after that; and the cache
forgets one URI or all of them at any time.

What holds in every state of every run is `sharing_never_stale`.  Its parts rest on
four facts about a step:

* `Sound` is kept: every lookup has its one query, and what callers have received is
  what their lookup has come to;
* an entry never names a lookup older than the last invalidation of its URI
  (`Since`), because beginning a lookup is the only way into the cache;
* a lookup that no URI is served by stays that way (`Forgotten`), for the same reason;
* every query for a URI but the first is paid for by an invalidation of it
  (`Run.fetchesFor_le`).

The server itself, for an editor that answers at once, takes such steps
(`Sound.resolver_run`).
-/
import Kickstart.Proofs.Settings.Cache

namespace Kickstart

set_option autoImplicit false

/-! ## Steps and runs -/

/-- A caller, the lookup it has joined and what it has received. -/
structure Caller where
  uri : Uri
  lookup : Nat
  received : Option Settings

/-- The cache with its callers, in the order in which they came, and the queries that
were sent, each with the lookup that it is for. -/
structure Traffic where
  cache : SettingsCache
  callers : List Caller
  fetches : List (Nat × Uri)

/-- What can happen. -/
inductive Act where
  /-- A caller starts to resolve the settings of a URI. -/
  | resolve (u : Uri)
  /-- The answer to a lookup comes. -/
  | complete (id : Nat) (reply : Reply)
  /-- A caller looks and finds its settings. -/
  | receive (caller : Nat)
  /-- All lookups are forgotten. -/
  | clear
  /-- The lookup of a URI is forgotten. -/
  | remove (u : Uri)

/-- The lookup of a URI is forgotten. -/
def Act.invalidates (u : Uri) : Act → Bool
  | .clear => true
  | .remove v => v = u
  | _ => false

namespace Traffic

/-- Nobody has come yet. -/
def start : Traffic := ⟨.empty, [], []⟩

/-- A caller comes; it sends a query if it is the one to begin the lookup. -/
def resolve (s : Traffic) (u : Uri) (reply : Reply) (answered : Bool) : Traffic :=
  let (id, begun, cache) := s.cache.attach u reply answered
  ⟨cache, s.callers ++ [⟨u, id, none⟩], s.fetches ++ if begun then [(id, u)] else []⟩

/-- One step.  The answer that a lookup begins with is what the editor has in mind; it
counts only if it is there at once. -/
inductive Step : Traffic → Act → Traffic → Prop where
  | resolve {s : Traffic} (u : Uri) (reply : Reply) (answered : Bool) :
      Step s (.resolve u) (s.resolve u reply answered)
  | complete {s : Traffic} {id : Nat} {l : Lookup} (reply : Reply)
      (found : s.cache.lookups[id]? = some l) (pending : l.answered = false) :
      Step s (.complete id reply) { s with cache := s.cache.complete id l reply }
  | receive {s : Traffic} {k : Nat} {caller : Caller} {settings : Settings}
      (waits : s.callers[k]? = some caller) (empty : caller.received = none)
      (looked : (s.cache.look caller.lookup).1 = some settings) :
      Step s (.receive k)
        { s with
          cache := (s.cache.look caller.lookup).2.2
          callers := s.callers.set k { caller with received := some settings } }
  | clear {s : Traffic} : Step s .clear { s with cache := s.cache.clear }
  | remove {s : Traffic} (u : Uri) : Step s (.remove u) { s with cache := s.cache.remove u }

/-- Steps one after the other. -/
inductive Run : Traffic → List Act → Traffic → Prop where
  | done (s : Traffic) : Run s [] s
  | step {s t r : Traffic} {a : Act} {acts : List Act} (first : Step s a t) (later : Run t acts r) :
      Run s (a :: acts) r

/-- What every step keeps, every run keeps. -/
theorem Run.keeps {P : Traffic → Prop} (step : ∀ {s a t}, Step s a t → P s → P t)
    {s t : Traffic} {acts : List Act} (run : Run s acts t) (holds : P s) : P t := by
  induction run with
  | done s => exact holds
  | step first _ ih => exact ih (step first holds)

/-- A caller that comes joins the lookup that serves its URI, or begins one. -/
theorem resolve_cases (s : Traffic) (u : Uri) (reply : Reply) (answered : Bool) :
    (∃ id, s.cache.serving? u = some id ∧
      s.resolve u reply answered = ⟨s.cache, s.callers ++ [⟨u, id, none⟩], s.fetches⟩) ∨
    (s.cache.serving? u = none ∧
      s.resolve u reply answered =
        ⟨s.cache.begun u reply answered, s.callers ++ [⟨u, s.cache.lookups.length, none⟩],
          s.fetches ++ [(s.cache.lookups.length, u)]⟩) := by
  unfold resolve
  cases serves : s.cache.serving? u with
  | some id =>
      rw [SettingsCache.attach_of_serving serves]
      exact Or.inl ⟨id, rfl, by simp⟩
  | none =>
      rw [SettingsCache.attach_of_none serves]
      exact Or.inr ⟨rfl, by simp⟩

/-! ## Queries and what callers receive -/

/-- Lookups and callers fit together: the queries sent for a lookup are the one for its
document, entries and callers name lookups of their URI, and a caller has received
nothing but what its lookup has come to. -/
structure Sound (s : Traffic) : Prop where
  fetched : ∀ id, s.fetches.filter (fun f => f.1 = id) =
    ((s.cache.scope? id).map fun u => (id, u)).toList
  settled : s.cache.Settled
  served : ∀ u id, s.cache.serving? u = some id → s.cache.scope? id = some u
  joined : ∀ caller ∈ s.callers, s.cache.scope? caller.lookup = some caller.uri
  received : ∀ caller ∈ s.callers, ∀ x,
    caller.received = some x → s.cache.result? caller.lookup = some x

theorem sound_start : Sound start := by
  refine ⟨fun id => rfl, ?_, ?_, ?_, ?_⟩
  · intro l member
    cases member
  · intro u id serves
    cases serves
  · intro caller member
    cases member
  · intro caller member
    cases member

/-- Nothing changes but the cache, and there only what lookups have come to. -/
theorem Sound.refine {s : Traffic} {d : SettingsCache} (sound : Sound s)
    (refines : s.cache.Refines d) : Sound { s with cache := d } where
  fetched id := by rw [SettingsCache.scope?_refines refines, sound.fetched]
  settled := refines.settled
  served u id serves := by
    rw [SettingsCache.serving?_refines refines] at serves
    rw [SettingsCache.scope?_refines refines, sound.served u id serves]
  joined caller member := by rw [SettingsCache.scope?_refines refines, sound.joined caller member]
  received caller member x has := refines.results _ x (sound.received caller member x has)

/-- Forgetting entries leaves the lookups, and with them the callers, alone. -/
theorem Sound.forget {s : Traffic} {d : SettingsCache} (sound : Sound s)
    (kept : d.lookups = s.cache.lookups)
    (fewer : ∀ u id, d.serving? u = some id → s.cache.serving? u = some id) :
    Sound { s with cache := d } := by
  obtain ⟨entries, lookups⟩ := d
  obtain rfl : lookups = s.cache.lookups := kept
  exact ⟨sound.fetched, sound.settled, fun u id serves => sound.served u id (fewer u id serves),
    sound.joined, sound.received⟩

theorem Sound.resolve {s : Traffic} (sound : Sound s) (u : Uri) (reply : Reply) (answered : Bool) :
    Sound (s.resolve u reply answered) := by
  rcases s.resolve_cases u reply answered with ⟨id, serves, joins⟩ | ⟨unserved, begins⟩
  · rw [joins]
    refine ⟨sound.fetched, sound.settled, sound.served, ?_, ?_⟩
    · intro caller member
      rcases List.mem_append.mp member with old | new
      · exact sound.joined caller old
      · rw [List.mem_singleton.mp new]
        exact sound.served u id serves
    · intro caller member x has
      rcases List.mem_append.mp member with old | new
      · exact sound.received caller old x has
      · rw [List.mem_singleton.mp new] at has
        cases has
  · rw [begins]
    have fresh : s.cache.scope? s.cache.lookups.length = none := by simp [SettingsCache.scope?]
    refine ⟨?_, SettingsCache.settled_begun sound.settled, ?_, ?_, ?_⟩
    · intro id
      rw [List.filter_append, sound.fetched, SettingsCache.scope?_begun]
      by_cases new : id = s.cache.lookups.length
      · subst new
        simp [fresh]
      · simp [new, Ne.symm new]
    · intro v id serves
      rw [SettingsCache.serving?_begun unserved] at serves
      split at serves
      · rename_i same
        obtain rfl := Option.some.inj serves
        rw [SettingsCache.scope?_begun, if_pos rfl, same]
      · exact SettingsCache.scope?_begun_of_some (sound.served v id serves)
    · intro caller member
      rcases List.mem_append.mp member with old | new
      · exact SettingsCache.scope?_begun_of_some (sound.joined caller old)
      · rw [List.mem_singleton.mp new]
        exact SettingsCache.scope?_begun.trans (if_pos rfl)
    · intro caller member x has
      rcases List.mem_append.mp member with old | new
      · exact SettingsCache.result?_begun (sound.received caller old x has)
      · rw [List.mem_singleton.mp new] at has
        cases has

theorem Sound.step {s t : Traffic} {a : Act} (step : Step s a t) (sound : Sound s) : Sound t := by
  cases step with
  | resolve u reply answered => exact sound.resolve u reply answered
  | complete reply found pending =>
      exact sound.refine (SettingsCache.refines_complete sound.settled found pending)
  | @receive k caller settings waits empty looked =>
      have refines : s.cache.Refines (s.cache.look caller.lookup).2.2 :=
        SettingsCache.refines_look sound.settled
      have refined := sound.refine refines
      have member := List.mem_of_getElem? waits
      refine ⟨refined.fetched, refined.settled, refined.served, ?_, ?_⟩
      · intro other member'
        rcases List.mem_or_eq_of_mem_set member' with old | rfl
        · exact refined.joined other old
        · exact refined.joined caller member
      · intro other member' x has
        rcases List.mem_or_eq_of_mem_set member' with old | rfl
        · exact refined.received other old x has
        · obtain rfl := Option.some.inj has
          rw [SettingsCache.look_settings sound.settled] at looked
          exact refines.results _ _ looked
  | clear => exact sound.forget rfl fun u id serves => by cases serves
  | remove v =>
      refine sound.forget rfl fun u id serves => ?_
      rw [SettingsCache.serving?_remove] at serves
      split at serves
      · cases serves
      · exact serves

/-! ## One URI through a step -/

/-- How many queries were sent for a URI. -/
def fetchesFor (s : Traffic) (u : Uri) : Nat := s.fetches.countP fun f => f.2 = u

/-- All that a step can do to one URI: leave it alone, begin the lookup that it lacks, or
forget the one that it has. -/
theorem step_cases {s t : Traffic} {a : Act} (step : Step s a t) (u : Uri) :
    (t.cache.serving? u = s.cache.serving? u ∧ t.fetchesFor u = s.fetchesFor u ∧
      a.invalidates u = false) ∨
    (s.cache.serving? u = none ∧ t.cache.serving? u = some s.cache.lookups.length ∧
      t.fetchesFor u = s.fetchesFor u + 1 ∧ a.invalidates u = false) ∨
    (t.cache.serving? u = none ∧ t.fetchesFor u = s.fetchesFor u ∧ a.invalidates u = true) := by
  cases step with
  | resolve v reply answered =>
      rcases s.resolve_cases v reply answered with ⟨id, serves, joins⟩ | ⟨unserved, begins⟩
      · rw [joins]
        exact Or.inl ⟨rfl, rfl, rfl⟩
      · rw [begins]
        simp only [fetchesFor, SettingsCache.serving?_begun unserved, List.countP_append]
        by_cases same : u = v
        · subst same
          exact Or.inr (Or.inl ⟨unserved, by simp, by simp, rfl⟩)
        · exact Or.inl ⟨by simp [same], by simp [Ne.symm same], rfl⟩
  | complete reply found pending =>
      rw [SettingsCache.complete_eq found]
      exact Or.inl ⟨rfl, rfl, rfl⟩
  | receive waits empty looked =>
      refine Or.inl ⟨?_, rfl, rfl⟩
      rw [SettingsCache.serving?, SettingsCache.look_keeps.1, SettingsCache.serving?]
  | clear => exact Or.inr (Or.inr ⟨rfl, rfl, rfl⟩)
  | remove v =>
      simp only [SettingsCache.serving?_remove, Act.invalidates, decide_eq_true_eq,
        decide_eq_false_iff_not]
      by_cases same : u = v
      · exact Or.inr (Or.inr ⟨if_pos same, rfl, same.symm⟩)
      · exact Or.inl ⟨if_neg same, rfl, Ne.symm same⟩

/-- Lookups are never dropped. -/
theorem length_lookups_step {s t : Traffic} {a : Act} (step : Step s a t) :
    s.cache.lookups.length ≤ t.cache.lookups.length := by
  cases step with
  | resolve v reply answered =>
      rcases s.resolve_cases v reply answered with ⟨id, serves, joins⟩ | ⟨unserved, begins⟩
      · simp [joins]
      · simp [begins, SettingsCache.begun]
  | complete reply found pending =>
      simp [SettingsCache.complete_eq found, SettingsCache.setLookup]
  | receive waits empty looked => exact Nat.le_of_eq SettingsCache.look_keeps.2.symm
  | clear => exact Nat.le_refl _
  | remove v => exact Nat.le_refl _

/-- A caller stays with the lookup it has joined. -/
theorem callers_step {s t : Traffic} {a : Act} (step : Step s a t) {k : Nat} {caller : Caller}
    (waits : s.callers[k]? = some caller) :
    ∃ later, t.callers[k]? = some later ∧ later.uri = caller.uri ∧ later.lookup = caller.lookup := by
  cases step with
  | resolve v reply answered =>
      have bound : k < s.callers.length := (List.getElem?_eq_some_iff.mp waits).1
      rcases s.resolve_cases v reply answered with ⟨id, serves, joins⟩ | ⟨unserved, begins⟩
      · exact ⟨caller, by rw [joins, List.getElem?_append_left bound, waits], rfl, rfl⟩
      · exact ⟨caller, by rw [begins, List.getElem?_append_left bound, waits], rfl, rfl⟩
  | @receive k' other settings waits' empty looked =>
      by_cases same : k' = k
      · subst same
        obtain rfl := Option.some.inj (waits.symm.trans waits')
        exact ⟨_, List.getElem?_set_self (List.getElem?_eq_some_iff.mp waits).1, rfl, rfl⟩
      · exact ⟨caller, by rw [List.getElem?_set_ne same, waits], rfl, rfl⟩
  | complete | clear | remove => exact ⟨caller, waits, rfl, rfl⟩

/-- A lookup stays with its document, and with its settings once it has come to some. -/
theorem Sound.lookup_step {s t : Traffic} {a : Act} (sound : Sound s) (step : Step s a t) {id : Nat}
    {u : Uri} {x : Settings} (scope : s.cache.scope? id = some u)
    (result : s.cache.result? id = some x) :
    t.cache.scope? id = some u ∧ t.cache.result? id = some x := by
  have refined : ∀ {d : SettingsCache}, s.cache.Refines d →
      d.scope? id = some u ∧ d.result? id = some x := by
    intro d refines
    exact ⟨(SettingsCache.scope?_refines refines).trans scope, refines.results id x result⟩
  cases step with
  | resolve v reply answered =>
      rcases s.resolve_cases v reply answered with ⟨id', serves, joins⟩ | ⟨unserved, begins⟩
      · rw [joins]
        exact ⟨scope, result⟩
      · rw [begins]
        exact ⟨SettingsCache.scope?_begun_of_some scope, SettingsCache.result?_begun result⟩
  | complete reply found pending =>
      exact refined (SettingsCache.refines_complete sound.settled found pending)
  | receive waits empty looked => exact refined (SettingsCache.refines_look sound.settled)
  | clear | remove => exact ⟨scope, result⟩

/-- What an answer means for its lookup. -/
theorem lookup_of_complete {s t : Traffic} {id : Nat} {reply : Reply}
    (step : Step s (.complete id reply) t) :
    ∃ u, t.cache.scope? id = some u ∧ t.cache.result? id = some (Lookup.conclude u reply).1 := by
  cases step with
  | @complete _ l _ found pending =>
      have bound : id < s.cache.lookups.length := (List.getElem?_eq_some_iff.mp found).1
      refine ⟨l.scope, ?_, ?_⟩ <;> rw [SettingsCache.complete_eq found]
      · simp [SettingsCache.scope?, SettingsCache.setLookup, bound]
      · simp [SettingsCache.result?, SettingsCache.setLookup, bound, Lookup.result?]

/-! ## Runs -/

theorem Run.sound {s t : Traffic} {acts : List Act} (run : Run s acts t) (sound : Sound s) : Sound t :=
  run.keeps Sound.step sound

theorem Run.callers {s t : Traffic} {acts : List Act} (run : Run s acts t) {k : Nat}
    {caller : Caller} (waits : s.callers[k]? = some caller) :
    ∃ later, t.callers[k]? = some later ∧ later.uri = caller.uri ∧ later.lookup = caller.lookup := by
  induction run generalizing caller with
  | done s => exact ⟨caller, waits, rfl, rfl⟩
  | step first _ ih =>
      obtain ⟨next, waits_next, uri_next, lookup_next⟩ := callers_step first waits
      obtain ⟨later, waits_later, uri_later, lookup_later⟩ := ih waits_next
      exact ⟨later, waits_later, uri_later.trans uri_next, lookup_later.trans lookup_next⟩

/-- The lookup that serves a URI, if there is one, is none of the first `n`. -/
def Since (n : Nat) (u : Uri) (s : Traffic) : Prop :=
  n ≤ s.cache.lookups.length ∧ ∀ id, s.cache.serving? u = some id → n ≤ id

theorem Since.step {n : Nat} {u : Uri} {s t : Traffic} {a : Act} (step : Step s a t)
    (since : Since n u s) : Since n u t := by
  refine ⟨Nat.le_trans since.1 (length_lookups_step step), fun id serves => ?_⟩
  rcases step_cases step u with ⟨same, -⟩ | ⟨-, begins, -⟩ | ⟨forgets, -⟩
  · exact since.2 id (same ▸ serves)
  · obtain rfl := Option.some.inj (begins.symm.trans serves)
    exact since.1
  · simp [forgets] at serves

/-- After an invalidation no lookup begun before it serves the URI. -/
theorem since_of_invalidates {u : Uri} {s t : Traffic} {a : Act} (step : Step s a t)
    (invalidates : a.invalidates u = true) : Since s.cache.lookups.length u t := by
  refine ⟨length_lookups_step step, fun id serves => ?_⟩
  rcases step_cases step u with ⟨-, -, keeps⟩ | ⟨-, -, -, keeps⟩ | ⟨forgets, -⟩
  · simp [keeps] at invalidates
  · simp [keeps] at invalidates
  · simp [forgets] at serves

/-- A caller that comes joins a lookup that `Since` admits. -/
theorem Since.resolve {n : Nat} {u : Uri} {s t : Traffic} (since : Since n u s)
    (step : Step s (.resolve u) t) :
    ∃ caller, t.callers[s.callers.length]? = some caller ∧ caller.uri = u ∧ n ≤ caller.lookup := by
  cases step with
  | resolve _ reply answered =>
      rcases s.resolve_cases u reply answered with ⟨id, serves, joins⟩ | ⟨unserved, begins⟩
      · exact ⟨⟨u, id, none⟩, by simp [joins], rfl, since.2 id serves⟩
      · exact ⟨⟨u, s.cache.lookups.length, none⟩, by simp [begins], rfl, since.1⟩

/-- The lookup exists, and no URI is served by it. -/
def Forgotten (id : Nat) (s : Traffic) : Prop :=
  id < s.cache.lookups.length ∧ ∀ u, s.cache.serving? u ≠ some id

theorem Forgotten.step {id : Nat} {s t : Traffic} {a : Act} (step : Step s a t)
    (forgotten : Forgotten id s) : Forgotten id t := by
  refine ⟨Nat.lt_of_lt_of_le forgotten.1 (length_lookups_step step), fun u serves => ?_⟩
  rcases step_cases step u with ⟨same, -⟩ | ⟨-, begins, -⟩ | ⟨forgets, -⟩
  · exact forgotten.2 u (same ▸ serves)
  · obtain rfl := Option.some.inj (begins.symm.trans serves)
    exact Nat.lt_irrefl _ forgotten.1
  · simp [forgets] at serves

/-- Queries for a URI are paid for by the invalidations of it; the last one may still be
owed while its lookup serves the URI. -/
theorem Run.fetchesFor_le {s t : Traffic} {acts : List Act} (run : Run s acts t) (u : Uri) {paid : Nat}
    (accounted : s.fetchesFor u ≤ paid + if (s.cache.serving? u).isSome then 1 else 0) :
    t.fetchesFor u ≤ paid + acts.countP (Act.invalidates u) +
      if (t.cache.serving? u).isSome then 1 else 0 := by
  induction run generalizing paid with
  | done s => simpa using accounted
  | @step s m r a acts first _ ih =>
      rw [List.countP_cons, Nat.add_comm (acts.countP _), ← Nat.add_assoc]
      refine ih ?_
      rcases step_cases first u with ⟨same, sent, keeps⟩ | ⟨unserved, begins, sent, keeps⟩ |
        ⟨forgets, sent, pays⟩
      · simpa [same, sent, keeps] using accounted
      · simpa [unserved, begins, sent, keeps] using accounted
      · simp only [forgets, sent, pays, if_true, Option.isSome_none, Bool.false_eq_true, if_false,
          Nat.add_zero]
        split at accounted <;> omega

/-! ## The cache's own operations -/

/-- An answer that comes as it was foreseen is a step. -/
theorem step_answer {s : Traffic} {id : Nat} {l : Lookup} (found : s.cache.lookups[id]? = some l)
    (pending : l.answered = false) :
    Step s (.complete id l.reply) { s with cache := s.cache.answer id } := by
  rw [← SettingsCache.complete_foreseen found]
  exact .complete l.reply found pending

/-- Where every answer comes at once, resolving is a caller that comes and receives. -/
theorem Sound.resolver_run {s : Traffic} (sound : Sound s)
    (prompt : ∀ l ∈ s.cache.lookups, l.answered = true) (ask : Uri → Reply) (u : Uri) :
    ∃ t, Run s [.resolve u, .receive s.callers.length] t ∧
      ((Resolver.perResource s.cache).resolve ask u).2.2 = .perResource t.cache ∧
      ∃ caller, t.callers[s.callers.length]? = some caller ∧ caller.uri = u ∧
        caller.received = some ((Resolver.perResource s.cache).resolve ask u).1 := by
  have prompt' : ∀ l ∈ (s.resolve u (ask u) true).cache.lookups, l.answered = true := by
    intro l member
    rcases s.resolve_cases u (ask u) true with ⟨id, serves, joins⟩ | ⟨unserved, begins⟩
    · rw [joins] at member
      exact prompt l member
    · rw [begins] at member
      rcases List.mem_append.mp member with old | new
      · exact prompt l old
      · rw [List.mem_singleton.mp new]
  have sound' : Sound (s.resolve u (ask u) true) := sound.resolve u (ask u) true
  have comes : (s.resolve u (ask u) true).callers[s.callers.length]? =
      some ⟨u, (s.cache.attach u (ask u) true).1, none⟩ := by
    simp [Traffic.resolve]
  obtain ⟨x, looked⟩ : ∃ x, ((s.resolve u (ask u) true).cache.look
      (s.cache.attach u (ask u) true).1).1 = some x := by
    obtain ⟨l, found, -⟩ := Option.map_eq_some_iff.mp
      (sound'.joined _ (List.mem_of_getElem? comes))
    have arrived := prompt' l (List.mem_of_getElem? found)
    rw [SettingsCache.look_settings sound'.settled, SettingsCache.result?, found]
    simp [Lookup.result?, arrived]
  have value : ((Resolver.perResource s.cache).resolve ask u).1 = x := by
    show ((s.resolve u (ask u) true).cache.look (s.cache.attach u (ask u) true).1).1.getD _ = x
    rw [looked, Option.getD_some]
  refine ⟨_, .step (.resolve u (ask u) true) (.step (.receive comes rfl looked) (.done _)), rfl,
    _, List.getElem?_set_self (List.getElem?_eq_some_iff.mp comes).1, rfl, ?_⟩
  rw [value]

/-! ## Shared, and never stale -/

/-- Every lookup has sent one query, for its document. -/
theorem Sound.one_query {s : Traffic} (sound : Sound s) {id : Nat}
    (begun : id < s.cache.lookups.length) :
    ∃ u, s.cache.scope? id = some u ∧ s.fetches.filter (fun f => f.1 = id) = [(id, u)] := by
  obtain ⟨u, scope⟩ : ∃ u, s.cache.scope? id = some u := by simp [SettingsCache.scope?, begun]
  refine ⟨u, scope, ?_⟩
  rw [sound.fetched, scope]
  rfl

/-- What one caller of a lookup has received, every caller of it finds. -/
theorem Sound.same_settings {s : Traffic} (sound : Sound s) {a b : Caller} (left : a ∈ s.callers)
    (right : b ∈ s.callers) (shared : a.lookup = b.lookup) {x : Settings}
    (has : a.received = some x) :
    (s.cache.look b.lookup).1 = some x ∧ ∀ y, b.received = some y → y = x := by
  have result : s.cache.result? b.lookup = some x := shared ▸ sound.received a left x has
  refine ⟨(SettingsCache.look_settings sound.settled).trans result, fun y also => ?_⟩
  exact Option.some.inj ((sound.received b right y also).symm.trans result)

/-- From its answer on, a lookup gives its callers the settings of that answer. -/
theorem Run.answered {s t r : Traffic} {id : Nat} {reply : Reply} {more : List Act} (sound : Sound s)
    (step : Step s (.complete id reply) t) (run : Run t more r) {caller : Caller}
    (member : caller ∈ r.callers) (joined : caller.lookup = id) :
    (r.cache.look id).1 = some (Lookup.conclude caller.uri reply).1 ∧
      ∀ x, caller.received = some x → x = (Lookup.conclude caller.uri reply).1 := by
  obtain ⟨u, scope, result⟩ := lookup_of_complete step
  obtain ⟨sound', scope', result'⟩ : Sound r ∧ r.cache.scope? id = some u ∧
      r.cache.result? id = some (Lookup.conclude u reply).1 :=
    run.keeps (P := fun q => Sound q ∧ q.cache.scope? id = some u ∧
        q.cache.result? id = some (Lookup.conclude u reply).1)
      (fun next holds => ⟨holds.1.step next, holds.1.lookup_step next holds.2.1 holds.2.2⟩)
      ⟨sound.step step, scope, result⟩
  subst joined
  obtain rfl := Option.some.inj ((sound'.joined caller member).symm.trans scope')
  refine ⟨(SettingsCache.look_settings sound'.settled).trans result', fun x has => ?_⟩
  exact Option.some.inj ((sound'.received caller member x has).symm.trans result')

/-- A caller that comes after an invalidation receives from a lookup begun after it. -/
theorem Run.fresh {s m t r e : Traffic} {a : Act} {u : Uri} {more rest : List Act} (sound : Sound s)
    (first : Step s a m) (invalidates : a.invalidates u = true) (between : Run m more t)
    (asks : Step t (.resolve u) r) (later : Run r rest e) :
    ∃ caller, e.callers[t.callers.length]? = some caller ∧ caller.uri = u ∧
      s.cache.lookups.length ≤ caller.lookup ∧
      ∀ x, caller.received = some x → e.cache.result? caller.lookup = some x := by
  have since : Since s.cache.lookups.length u t :=
    between.keeps Since.step (since_of_invalidates first invalidates)
  obtain ⟨newcomer, comes, its_uri, recent⟩ := since.resolve asks
  obtain ⟨caller, waits, same_uri, same_lookup⟩ := later.callers comes
  have sound' : Sound e := later.sound ((between.sound (sound.step first)).step asks)
  refine ⟨caller, waits, same_uri.trans its_uri, same_lookup ▸ recent, fun x has => ?_⟩
  exact sound'.received caller (List.mem_of_getElem? waits) x has

/-- A lookup that served a URI serves none after an invalidation. -/
theorem Sound.forgotten {s t : Traffic} {a : Act} {u : Uri} {id : Nat} (sound : Sound s)
    (serves : s.cache.serving? u = some id) (step : Step s a t)
    (invalidates : a.invalidates u = true) : Forgotten id t := by
  have scope := sound.served u id serves
  obtain ⟨l, found, -⟩ := Option.map_eq_some_iff.mp scope
  have begun : id < s.cache.lookups.length := (List.getElem?_eq_some_iff.mp found).1
  refine ⟨Nat.lt_of_lt_of_le begun (length_lookups_step step), fun v returns => ?_⟩
  rcases step_cases step v with ⟨same, -, keeps⟩ | ⟨-, begins, -⟩ | ⟨forgets, -⟩
  · -- a lookup serves only its own document, and that one was forgotten
    obtain rfl := Option.some.inj ((sound.served v id (same ▸ returns)).symm.trans scope)
    simp [keeps] at invalidates
  · obtain rfl := Option.some.inj (begins.symm.trans returns)
    exact Nat.lt_irrefl _ begun
  · simp [forgets] at returns

/-- In every state `s` of every run, for every way on from it:

1. every lookup has sent one query, and its callers all receive the same, which is what
   its answer says;
2. a caller that comes after an invalidation of its URI is served by a lookup that was
   begun later, and receives nothing but what that one came to;
3. neither an answer nor a look changes which lookups serve, and one that was forgotten
   serves no more;
4. a URI has at most one query more than it had invalidations;
5. forgetting one URI leaves the others as they are. -/
theorem sharing_never_stale {acts : List Act} {s : Traffic} (run : Run .start acts s) :
    ((∀ id < s.cache.lookups.length,
        ∃ u, s.cache.scope? id = some u ∧ s.fetches.filter (fun f => f.1 = id) = [(id, u)]) ∧
      (∀ a ∈ s.callers, ∀ b ∈ s.callers, a.lookup = b.lookup → ∀ x, a.received = some x →
        (s.cache.look b.lookup).1 = some x ∧ ∀ y, b.received = some y → y = x) ∧
      (∀ id reply t more r, Step s (.complete id reply) t → Run t more r →
        ∀ caller ∈ r.callers, caller.lookup = id →
          (r.cache.look id).1 = some (Lookup.conclude caller.uri reply).1 ∧
          ∀ x, caller.received = some x → x = (Lookup.conclude caller.uri reply).1)) ∧
    (∀ u a m more t r rest e, a.invalidates u = true → Step s a m → Run m more t →
      Step t (.resolve u) r → Run r rest e →
        ∃ caller, e.callers[t.callers.length]? = some caller ∧ caller.uri = u ∧
          s.cache.lookups.length ≤ caller.lookup ∧
          ∀ x, caller.received = some x → e.cache.result? caller.lookup = some x) ∧
    ((∀ id reply t, Step s (.complete id reply) t → t.cache.entries = s.cache.entries) ∧
      (∀ k t, Step s (.receive k) t → t.cache.entries = s.cache.entries) ∧
      (∀ u id a t more r, s.cache.serving? u = some id → a.invalidates u = true → Step s a t →
        Run t more r → ∀ v, r.cache.serving? v ≠ some id)) ∧
    (∀ u, s.fetchesFor u ≤ 1 + acts.countP (Act.invalidates u)) ∧
    (∀ u v t, v ≠ u → Step s (.remove v) t →
      t.cache.serving? u = s.cache.serving? u ∧ t.cache.lookups = s.cache.lookups ∧
        t.callers = s.callers ∧ t.fetches = s.fetches) := by
  have sound : Sound s := run.sound sound_start
  refine ⟨⟨?_, ?_, ?_⟩, ?_, ⟨?_, ?_, ?_⟩, ?_, ?_⟩
  · intro id begun
    exact sound.one_query begun
  · intro a left b right shared x has
    exact sound.same_settings left right shared has
  · intro id reply t more r answers later caller member joined
    exact later.answered sound answers member joined
  · intro u a m more t r rest e invalidates first between asks later
    exact Run.fresh sound first invalidates between asks later
  · intro id reply t answers
    cases answers with
    | complete _ found pending => rw [SettingsCache.complete_eq found, SettingsCache.setLookup]
  · intro k t receives
    cases receives with
    | receive waits empty looked => exact SettingsCache.look_keeps.1
  · intro u id a t more r serves invalidates step later v
    exact (later.keeps Forgotten.step (sound.forgotten serves step invalidates)).2 v
  · intro u
    have paid := run.fetchesFor_le u (Nat.zero_le (0 + _))
    split at paid <;> omega
  · intro u v t other removes
    cases removes with
    | remove => exact ⟨SettingsCache.serving?_remove.trans (if_neg (Ne.symm other)), rfl, rfl, rfl⟩

/-- A lookup is cleared in flight and answered when the next one already serves: the
answer does not bring it back, and the two queries are as many as one invalidation
allows. -/
theorem sharing_never_stale_cleared_in_flight :
    ∃ s, Run .start [.resolve default, .clear, .resolve default, .complete 0 (.error "gone")] s ∧
      s.cache.serving? default = some 1 ∧ s.fetchesFor default = 1 + 1 ∧
      s.fetchesFor default ≤ 1 + List.countP (Act.invalidates default)
        [.resolve default, .clear, .resolve default, .complete 0 (.error "gone")] ∧
      ∃ u, s.cache.scope? 0 = some u ∧ s.fetches.filter (fun f => f.1 = 0) = [(0, u)] := by
  have run : Run .start [.resolve default, .clear, .resolve default, .complete 0 (.error "gone")]
      ⟨⟨[(default, 1)],
          [⟨default, .error "gone", true, none⟩, ⟨default, .ok none, false, none⟩]⟩,
        [⟨default, 0, none⟩, ⟨default, 1, none⟩], [(0, default), (1, default)]⟩ :=
    .step (.resolve default (.ok none) false) <| .step .clear <|
      .step (.resolve default (.ok none) false) <| .step (.complete (.error "gone") rfl rfl) <|
        .done _
  obtain ⟨⟨queries, -, -⟩, -, -, bound, -⟩ := sharing_never_stale run
  exact ⟨_, run, by decide, by decide, bound default, queries 0 (by decide)⟩

end Traffic

end Kickstart
