/-
# Kickstart.Settings.Resolver -- the settings in force

There are two ways to learn settings, and the handshake fixes which.  An editor that
answers queries is asked per document, through the cache.  Any other editor pushes
one value for all documents with its configuration, and the last one pushed holds.
-/
import Kickstart.Settings.Cache

namespace Kickstart

set_option autoImplicit false

/-- How settings are learnt. -/
inductive Resolver where
  /-- One value for all documents. -/
  | global (settings : Settings)
  /-- Asked per document. -/
  | perResource (cache : SettingsCache)

namespace Resolver

/-- The start of either way. -/
def start (perResource : Bool) : Resolver :=
  if perResource then .perResource .empty else .global .default

/-- Asks per document. -/
def isPerResource : Resolver → Bool
  | .global _ => false
  | .perResource _ => true

/-- The settings of a document when the editor answers at once. -/
def resolve (ask : Uri → Reply) (u : Uri) : Resolver → Settings × List Event × Resolver
  | .global settings => (settings, [], .global settings)
  | .perResource cache =>
    let (id, begun, cache) := cache.attach u (ask u) true
    let (settings, warnings, cache) := cache.look id
    (settings.getD .default,
      (if begun then [.queried u] else []) ++ warnings.map .warned,
      .perResource cache)

/-- A change of configuration: a pushed value replaces the last one, answers to queries
are forgotten. -/
def configurationChanged (payload : Json) : Resolver → List Event × Resolver
  | .global _ =>
    let (settings, warnings) := Settings.ofSectionLossy (payload.member? settingsSection)
    (warnings.map .warned, .global settings)
  | .perResource cache => ([], .perResource cache.clear)

/-- A document was closed: what was learnt for it is forgotten. -/
def forget (u : Uri) : Resolver → Resolver
  | .global settings => .global settings
  | .perResource cache => .perResource (cache.remove u)

end Resolver

end Kickstart
