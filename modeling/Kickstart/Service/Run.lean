/-
# Kickstart.Service.Run -- carrying work through

`Work.run` takes steps until the work is done, or until it reaches a point where it
is to pause.  `Service.run` does so for the works of one handler, one after the
other; a handler that pauses leaves the paused work and all that follow it.
-/
import Kickstart.Service.Work

namespace Kickstart

set_option autoImplicit false

/-- Steps until the work is done or is at a point where `pause` holds. -/
def Work.run (sur : Surroundings) (pause : Work → Bool) (w : Work) (s : Service) : Progress :=
  if pause w then ⟨s, [], some w⟩
  else
    match h : Work.step sur s w with
    | ⟨s, events, none⟩ => ⟨s, events, none⟩
    | ⟨s, events, some next⟩ =>
      have : next.rank < w.rank := Work.rank_step (by rw [h])
      let later := Work.run sur pause next s
      { later with events := events ++ later.events }
termination_by w.rank

/-- The state after a handler's works, what happened, and the works that are left. -/
structure Outcome where
  service : Service
  events : List Event
  left : List Work

/-- Works one after the other, up to a pause. -/
def Service.run (sur : Surroundings) (pause : Work → Bool) (s : Service) : List Work → Outcome
  | [] => ⟨s, [], []⟩
  | w :: rest =>
    match Work.run sur pause w s with
    | ⟨s, events, some paused⟩ => ⟨s, events, paused :: rest⟩
    | ⟨s, events, none⟩ =>
      let later := Service.run sur pause s rest
      { later with events := events ++ later.events }

/-- Never pauses. -/
def Work.never (_ : Work) : Bool := false

/-- Works carried through to their ends. -/
def Service.finish (sur : Surroundings) (s : Service) (works : List Work) :
    Service × List Event :=
  let outcome := s.run sur Work.never works
  (outcome.service, outcome.events)

end Kickstart
