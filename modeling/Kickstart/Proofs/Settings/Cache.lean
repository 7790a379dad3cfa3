/-
# Kickstart.Proofs.Settings.Cache -- what each operation of the cache does

A cache is seen through two views: which lookup serves a URI (`serving?`), and what a
lookup has come to (`result?`).  Each operation has one statement per view it touches;
nothing else unfolds the operations.

A lookup may hold settings only once its answer has come, and then those of the answer
(`Settled`).  On such a cache `look` is the view `result?`, whoever looks and whenever.
-/
import Kickstart.Settings.Resolver

namespace Kickstart

set_option autoImplicit false

/-- What a lookup comes to: the settings of its answer, once that has come. -/
def Lookup.result? (l : Lookup) : Option Settings :=
  if l.answered then some (Lookup.conclude l.scope l.reply).1 else none

namespace SettingsCache

variable {c : SettingsCache} {u v : Uri} {id : Nat} {reply : Reply} {answered : Bool}

/-- What the lookup at an index comes to. -/
def result? (c : SettingsCache) (id : Nat) : Option Settings := c.lookups[id]?.bind Lookup.result?

/-- The document that the lookup at an index is for. -/
def scope? (c : SettingsCache) (id : Nat) : Option Uri := c.lookups[id]?.map Lookup.scope

/-- Settings that a lookup holds are those of its answer. -/
def Settled (c : SettingsCache) : Prop :=
  ∀ l ∈ c.lookups, ∀ x, l.settings = some x → l.result? = some x

/-- The cache after a lookup for a URI has begun. -/
def begun (c : SettingsCache) (u : Uri) (reply : Reply) (answered : Bool) : SettingsCache :=
  ⟨c.entries ++ [(u, c.lookups.length)], c.lookups ++ [⟨u, reply, answered, none⟩]⟩

/-- The answer of a lookup comes, and it is `reply`. -/
def complete (c : SettingsCache) (id : Nat) (l : Lookup) (reply : Reply) : SettingsCache :=
  (c.setLookup id { l with reply }).answer id

/-! ## Joining and beginning -/

theorem attach_of_serving (serves : c.serving? u = some id) :
    c.attach u reply answered = (id, false, c) := by
  simp [attach, serves]

theorem attach_of_none (unserved : c.serving? u = none) :
    c.attach u reply answered = (c.lookups.length, true, c.begun u reply answered) := by
  simp [attach, unserved, begun]

theorem serving?_begun (unserved : c.serving? u = none) :
    (c.begun u reply answered).serving? v =
      if v = u then some c.lookups.length else c.serving? v := by
  unfold serving? at unserved ⊢
  by_cases same : v = u
  · subst same
    simp [begun, List.lookup_append, unserved]
  · have other : List.lookup v [(u, c.lookups.length)] = none := by
      simp [List.lookup_cons, beq_eq_false_iff_ne.mpr same]
    simp [begun, List.lookup_append, other, same]

theorem scope?_begun :
    (c.begun u reply answered).scope? id =
      if id = c.lookups.length then some u else c.scope? id := by
  unfold scope? begun
  split
  · rename_i new
    simp [new]
  · rename_i other
    by_cases old : id < c.lookups.length
    · rw [List.getElem?_append_left old]
    · have past : c.lookups.length + 1 ≤ id := by omega
      rw [List.getElem?_eq_none (by simpa using past), List.getElem?_eq_none (by omega)]

theorem scope?_begun_of_some (before : c.scope? id = some v) :
    (c.begun u reply answered).scope? id = some v := by
  rw [scope?_begun, if_neg, before]
  rintro rfl
  simp [scope?] at before

/-- A lookup that begins leaves alone what the others have come to. -/
theorem result?_begun {x : Settings} (before : c.result? id = some x) :
    (c.begun u reply answered).result? id = some x := by
  unfold result? at before ⊢
  obtain ⟨l, found, resolved⟩ := Option.bind_eq_some_iff.mp before
  have old : id < c.lookups.length := (List.getElem?_eq_some_iff.mp found).1
  rw [begun, List.getElem?_append_left old, found, Option.bind_some, resolved]

theorem settled_begun (settled : c.Settled) : (c.begun u reply answered).Settled := by
  intro l member x holds
  rcases List.mem_append.mp member with old | new
  · exact settled l old x holds
  · rw [List.mem_singleton.mp new] at holds
    cases holds

/-! ## Forgetting -/

theorem serving?_remove :
    (c.remove u).serving? v = if v = u then none else c.serving? v := by
  obtain ⟨entries, lookups⟩ := c
  unfold serving? remove
  induction entries with
  | nil => simp
  | cons entry entries ih =>
      obtain ⟨w, id⟩ := entry
      by_cases forgotten : w = u
      · subst forgotten
        by_cases same : v = w
        · subst same
          simpa using ih
        · simpa [List.lookup_cons, beq_eq_false_iff_ne.mpr same, same] using ih
      · by_cases same : v = w
        · subst same
          simp [forgotten]
        · simpa [forgotten, List.lookup_cons, beq_eq_false_iff_ne.mpr same] using ih

/-! ## Answers and looks -/

theorem complete_eq {l : Lookup} (found : c.lookups[id]? = some l) :
    c.complete id l reply = c.setLookup id { l with reply, answered := true } := by
  have bound : id < c.lookups.length := (List.getElem?_eq_some_iff.mp found).1
  simp [complete, answer, setLookup, bound]

/-- An answer that is the one foreseen is `answer`. -/
theorem complete_foreseen {l : Lookup} (found : c.lookups[id]? = some l) :
    c.complete id l l.reply = c.answer id := by
  rw [complete_eq found, answer, found]

theorem look_settings (settled : c.Settled) : (c.look id).1 = c.result? id := by
  unfold look result?
  cases found : c.lookups[id]? with
  | none => rfl
  | some l =>
      have kept := settled l (List.mem_of_getElem? found)
      cases held : l.settings with
      | some x => simp [kept x held, held]
      | none =>
          simp only [held, Option.bind_some, Lookup.result?]
          split <;> rfl

/-- A look leaves the entries and the number of lookups alone. -/
theorem look_keeps : (c.look id).2.2.entries = c.entries ∧
    (c.look id).2.2.lookups.length = c.lookups.length := by
  unfold look
  split
  · exact ⟨rfl, rfl⟩
  · split
    · exact ⟨rfl, rfl⟩
    · split
      · exact ⟨rfl, List.length_set⟩
      · exact ⟨rfl, rfl⟩

/-! ## Results stay -/

/-- The second cache serves the same lookups as the first, and they have come at least as
far. -/
structure Refines (c d : SettingsCache) : Prop where
  entries : d.entries = c.entries
  scopes : d.lookups.map Lookup.scope = c.lookups.map Lookup.scope
  results : ∀ id x, c.result? id = some x → d.result? id = some x
  settled : d.Settled

theorem refines_setLookup {l l' : Lookup} (settled : c.Settled) (found : c.lookups[id]? = some l)
    (scope : l'.scope = l.scope) (result : ∀ x, l.result? = some x → l'.result? = some x)
    (held : ∀ x, l'.settings = some x → l'.result? = some x) : c.Refines (c.setLookup id l') where
  entries := rfl
  scopes := by
    obtain ⟨bound, rfl⟩ := List.getElem?_eq_some_iff.mp found
    simp only [setLookup, List.map_set, scope]
    rw [← List.getElem_map Lookup.scope (h := by simpa using bound), List.set_getElem_self]
  results := by
    intro other x before
    simp only [result?, setLookup] at before ⊢
    by_cases same : id = other
    · subst same
      rw [found, Option.bind_some] at before
      rw [List.getElem?_set_self (List.getElem?_eq_some_iff.mp found).1, Option.bind_some]
      exact result x before
    · rwa [List.getElem?_set_ne same]
  settled := by
    intro k member x holds
    rcases List.mem_or_eq_of_mem_set member with old | rfl
    · exact settled k old x holds
    · exact held x holds

/-- An answer changes what a pending lookup comes to, and nothing else. -/
theorem refines_complete {l : Lookup} (settled : c.Settled) (found : c.lookups[id]? = some l)
    (pending : l.answered = false) : c.Refines (c.complete id l reply) := by
  have unresolved : l.result? = none := by simp [Lookup.result?, pending]
  rw [complete_eq found]
  refine refines_setLookup settled found rfl (fun x before => ?_) (fun x holds => ?_)
  · rw [unresolved] at before
    cases before
  · have early := settled l (List.mem_of_getElem? found) x holds
    rw [unresolved] at early
    cases early

theorem refines_look (settled : c.Settled) : c.Refines (c.look id).2.2 := by
  have unchanged : c.Refines c := ⟨rfl, rfl, fun _ _ before => before, settled⟩
  unfold look
  cases found : c.lookups[id]? with
  | none => exact unchanged
  | some l =>
      cases held : l.settings with
      | some x => simpa only [held] using unchanged
      | none =>
          simp only [held]
          split
          · rename_i arrived
            refine refines_setLookup settled found rfl (fun _ before => before) (fun x holds => ?_)
            simpa [Lookup.result?, arrived] using holds
          · exact unchanged

theorem serving?_refines {d : SettingsCache} (refines : c.Refines d) : d.serving? v = c.serving? v := by
  rw [serving?, refines.entries, serving?]

theorem scope?_refines {d : SettingsCache} (refines : c.Refines d) : d.scope? id = c.scope? id := by
  rw [scope?, scope?, ← List.getElem?_map, ← List.getElem?_map, refines.scopes]

end SettingsCache

end Kickstart
