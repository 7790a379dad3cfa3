/-
# Kickstart.Proofs.Settings.Resolver -- what a resolver knows of each document

When the editor answers at once, a resolver is seen through one view: the settings that it
knows for a URI (`Resolver.known?`).  One that keeps a single value knows it for all
documents.  One that asks knows what it was told and has not forgotten, and asks where it
knows nothing: `resolve_spec` says what a caller gets, what is asked and what is known
afterwards, and that no other URI matters.
-/
import Kickstart.Proofs.Settings.Cache

namespace Kickstart

set_option autoImplicit false

/-- The settings that an answer means: those of the section that came, with defaults in
place of what is absent or malformed, and the defaults if there was no answer. -/
def Reply.settings : Reply → Settings
  | .ok section? => (Settings.ofSectionLossy section?).1
  | .error _ => .default

theorem Lookup.conclude_fst (u : Uri) (reply : Reply) :
    (Lookup.conclude u reply).1 = reply.settings := by
  cases reply <;> rfl

namespace SettingsCache

variable {c : SettingsCache} {u v : Uri} {id : Nat}

/-- The settings that the lookup of a URI has come to. -/
def known? (c : SettingsCache) (u : Uri) : Option Settings := (c.serving? u).bind c.result?

/-- All answers have come, and all that serves is there. -/
structure Prompt (c : SettingsCache) : Prop where
  settled : c.Settled
  serves : ∀ u id, c.serving? u = some id → (c.result? id).isSome = true

theorem prompt_empty : Prompt .empty where
  settled _ member := by cases member
  serves _ _ serves := by cases serves

theorem Prompt.remove (prompt : c.Prompt) (u : Uri) : (c.remove u).Prompt := by
  refine ⟨prompt.settled, fun v id serves => ?_⟩
  rw [serving?_remove] at serves
  split at serves
  · cases serves
  · exact prompt.serves v id serves

theorem Prompt.clear (prompt : c.Prompt) : c.clear.Prompt :=
  ⟨prompt.settled, fun _ _ serves => by cases serves⟩

theorem known?_remove : (c.remove u).known? v = if v = u then none else c.known? v := by
  unfold known?
  rw [serving?_remove]
  split <;> rfl

/-- Looking does not change what is known. -/
theorem Prompt.look (prompt : c.Prompt) (id : Nat) :
    (c.look id).2.2.Prompt ∧ ∀ v, (c.look id).2.2.known? v = c.known? v := by
  have refines : c.Refines (c.look id).2.2 := refines_look prompt.settled
  have kept {other : Nat} {x : Settings} (before : c.result? other = some x) :
      (c.look id).2.2.result? other = some x := refines.results other x before
  refine ⟨⟨refines.settled, fun v other serves => ?_⟩, fun v => ?_⟩
  · rw [serving?_refines refines] at serves
    obtain ⟨x, before⟩ := Option.isSome_iff_exists.mp (prompt.serves v other serves)
    rw [kept before]
    rfl
  · unfold known?
    rw [serving?_refines refines]
    cases serves : c.serving? v with
    | none => rfl
    | some other =>
        obtain ⟨x, before⟩ := Option.isSome_iff_exists.mp (prompt.serves v other serves)
        rw [Option.bind_some, Option.bind_some, before, kept before]

/-- A lookup that is answered at once is known at once, and changes nothing for others. -/
theorem Prompt.begun (prompt : c.Prompt) (unserved : c.serving? u = none) (reply : Reply) :
    (c.begun u reply true).Prompt ∧
      (c.begun u reply true).result? c.lookups.length = some reply.settings ∧
      ∀ v, (c.begun u reply true).known? v = if v = u then some reply.settings else c.known? v := by
  have result : (c.begun u reply true).result? c.lookups.length = some reply.settings := by
    simp [SettingsCache.begun, result?, Lookup.result?, Lookup.conclude_fst]
  have old {v : Uri} {id : Nat} (serves : c.serving? v = some id) :
      ∃ x, c.result? id = some x ∧ (c.begun u reply true).result? id = some x := by
    obtain ⟨x, before⟩ := Option.isSome_iff_exists.mp (prompt.serves v id serves)
    exact ⟨x, before, result?_begun before⟩
  refine ⟨⟨settled_begun prompt.settled, fun v id serves => ?_⟩, result, fun v => ?_⟩
  · rw [serving?_begun unserved] at serves
    split at serves
    · obtain rfl := Option.some.inj serves
      rw [result]
      rfl
    · obtain ⟨x, -, after⟩ := old serves
      rw [after]
      rfl
  · unfold known?
    rw [serving?_begun unserved]
    split
    · exact result
    · cases serves : c.serving? v with
      | none => rfl
      | some id =>
          obtain ⟨x, before, after⟩ := old serves
          rw [Option.bind_some, Option.bind_some, before, after]

end SettingsCache

theorem Event.queries_warned (warnings : List Warning) :
    Event.queries (warnings.map .warned) = [] := by
  simp [Event.queries, List.filterMap_map]

/-! ## Both ways -/

namespace Resolver

open SettingsCache

variable {r : Resolver} {u v : Uri}

/-- The settings that are known for a URI. -/
def known? (u : Uri) : Resolver → Option Settings
  | .global settings => some settings
  | .perResource cache => cache.known? u

/-- No answer is pending. -/
def Prompt : Resolver → Prop
  | .global _ => True
  | .perResource cache => cache.Prompt

theorem prompt_start (perResource : Bool) : (start perResource).Prompt := by
  cases perResource
  · trivial
  · exact prompt_empty

/-- A caller gets what is known, or else what the editor answers now; it asks in the second
case only, and the answer is what is known from then on. -/
theorem resolve_spec (prompt : r.Prompt) (ask : Uri → Reply) (u : Uri) :
    (r.resolve ask u).1 = (r.known? u).getD (ask u).settings ∧
      Event.queries (r.resolve ask u).2.1 = (if (r.known? u).isSome then [] else [u]) ∧
      (r.resolve ask u).2.2.Prompt ∧
      (r.resolve ask u).2.2.isPerResource = r.isPerResource ∧
      ∀ v, (r.resolve ask u).2.2.known? v =
        if v = u then some (r.resolve ask u).1 else r.known? v := by
  cases r with
  | global settings => exact ⟨rfl, rfl, trivial, rfl, fun v => by simp [resolve, known?]⟩
  | perResource c =>
      change c.Prompt at prompt
      simp only [resolve]
      cases serves : c.serving? u with
      | some id =>
          obtain ⟨x, result⟩ := Option.isSome_iff_exists.mp (prompt.serves u id serves)
          have known : known? u (.perResource c) = some x := by
            rw [known?, SettingsCache.known?, serves, Option.bind_some, result]
          obtain ⟨still, same⟩ := prompt.look id
          rw [attach_of_serving serves, look_settings prompt.settled, result, known]
          refine ⟨rfl, Event.queries_warned _, still, rfl, fun v => ?_⟩
          split
          · rename_i this
            rw [this]
            exact (same u).trans known
          · exact same v
      | none =>
          have unknown : known? u (.perResource c) = none := by
            rw [known?, SettingsCache.known?, serves, Option.bind_none]
          obtain ⟨begun, result, known⟩ := prompt.begun serves (ask u)
          obtain ⟨still, same⟩ := begun.look c.lookups.length
          rw [attach_of_none serves, look_settings begun.settled, result, unknown]
          refine ⟨rfl, ?_, still, rfl, fun v => (same v).trans (known v)⟩
          exact congrArg (u :: ·) (Event.queries_warned _)

/-- A pushed value is known for all documents; what was asked for is forgotten. -/
theorem configurationChanged_spec (prompt : r.Prompt) (payload : Json) :
    (r.configurationChanged payload).2.Prompt ∧
      (r.configurationChanged payload).2.isPerResource = r.isPerResource ∧
      Event.queries (r.configurationChanged payload).1 = [] ∧
      ∀ v, (r.configurationChanged payload).2.known? v =
        if r.isPerResource then none
        else some (Settings.ofSectionLossy (payload.member? settingsSection)).1 := by
  cases r with
  | global settings => exact ⟨trivial, rfl, Event.queries_warned _, fun _ => rfl⟩
  | perResource c => exact ⟨SettingsCache.Prompt.clear prompt, rfl, rfl, fun _ => rfl⟩

/-- What was asked for a closed document is forgotten. -/
theorem forget_spec (prompt : r.Prompt) (u : Uri) :
    (r.forget u).Prompt ∧ (r.forget u).isPerResource = r.isPerResource ∧
      ∀ v, (r.forget u).known? v = if r.isPerResource ∧ v = u then none else r.known? v := by
  cases r with
  | global settings => exact ⟨trivial, rfl, fun _ => rfl⟩
  | perResource c =>
      refine ⟨SettingsCache.Prompt.remove prompt u, rfl, fun v => ?_⟩
      have removed : known? v (forget u (.perResource c)) =
          if v = u then none else known? v (.perResource c) := known?_remove
      simpa [isPerResource] using removed

end Resolver

end Kickstart
