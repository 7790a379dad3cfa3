/-
# Kickstart.Settings.Cache -- settings queried per document

Editors that can be asked for the settings of one document are asked once: the
first caller for a URI begins a lookup, and the cache remembers the lookup, not its
result, so callers that come before the answer share it.  A lookup's settings are
worked out by the first caller that looks after the answer has come.

Removing a URI or clearing the cache forgets lookups without stopping them: callers
that wait go on waiting for the same lookup, and the next caller begins a new one.
Nothing but `attach` ever adds to the cache, so a forgotten lookup does not return.
-/
import Kickstart.Settings.Section

namespace Kickstart

set_option autoImplicit false

/-- An editor's answer to a settings query: a value, no value, or a refusal. -/
abbrev Reply := Except String (Option Json)

/-- One query and what became of it. -/
structure Lookup where
  /-- The document the settings are for. -/
  scope : Uri
  /-- What the editor answers. -/
  reply : Reply
  /-- The answer has come. -/
  answered : Bool
  /-- The settings, once a caller has worked them out. -/
  settings : Option Settings

namespace Lookup

/-- Settings and warnings of an answer. -/
def conclude (scope : Uri) : Reply → Settings × List Warning
  | .ok section? => Settings.ofSectionLossy section?
  | .error text => (.default, [.settingsUnanswered scope (.configuration text)])

end Lookup

/-- Lookups by URI.  All lookups ever begun are kept in order of their beginning; an
entry names one by its index. -/
structure SettingsCache where
  entries : List (Uri × Nat)
  lookups : List Lookup

namespace SettingsCache

/-- No lookup was begun. -/
def empty : SettingsCache := ⟨[], []⟩

/-- The lookup that serves a URI. -/
def serving? (c : SettingsCache) (u : Uri) : Option Nat := c.entries.lookup u

/-- Joins the lookup that serves a URI, or begins one.  Gives its index and whether it
was begun; `reply` and `answered` are those of a lookup that begins. -/
def attach (c : SettingsCache) (u : Uri) (reply : Reply) (answered : Bool) :
    Nat × Bool × SettingsCache :=
  match c.serving? u with
  | some id => (id, false, c)
  | none =>
    let id := c.lookups.length
    (id, true, ⟨c.entries ++ [(u, id)], c.lookups ++ [⟨u, reply, answered, none⟩]⟩)

/-- Replaces the lookup at an index. -/
def setLookup (c : SettingsCache) (id : Nat) (l : Lookup) : SettingsCache :=
  { c with lookups := c.lookups.set id l }

/-- The settings of a lookup, if its answer has come; the first to look works them out
and is the one who warns. -/
def look (c : SettingsCache) (id : Nat) : Option Settings × List Warning × SettingsCache :=
  match c.lookups[id]? with
  | none => (none, [], c)
  | some l =>
    match l.settings with
    | some settings => (some settings, [], c)
    | none =>
      if l.answered then
        let (settings, warnings) := Lookup.conclude l.scope l.reply
        (some settings, warnings, c.setLookup id { l with settings := some settings })
      else (none, [], c)

/-- The answer of a lookup comes. -/
def answer (c : SettingsCache) (id : Nat) : SettingsCache :=
  match c.lookups[id]? with
  | none => c
  | some l => c.setLookup id { l with answered := true }

/-- The answers of all lookups come. -/
def answerAll (c : SettingsCache) : SettingsCache :=
  { c with lookups := c.lookups.map fun l => { l with answered := true } }

/-- Forgets the lookup of a URI. -/
def remove (c : SettingsCache) (u : Uri) : SettingsCache :=
  { c with entries := c.entries.filter fun (v, _) => v ≠ u }

/-- Forgets all lookups. -/
def clear (c : SettingsCache) : SettingsCache := { c with entries := [] }

/-- How many URIs have a lookup. -/
def size (c : SettingsCache) : Nat := c.entries.length

end SettingsCache

end Kickstart
