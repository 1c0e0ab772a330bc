import ProbeKit.Loop
import ProbeKit.Session.Tasks

/-!
# The loop of a session

A turn carries on whatever was ready before it, first things first, and then the timers that are
due.  What becomes ready meanwhile waits for the next turn.
-/

namespace ProbeKit.Session

/-- Carries on. -/
def perform (s : Session) : Job → Session
  | .beginTask number => s.beginTask number
  | .beginRun => s.beginRun
  | .buildEnded build status => s.buildEnded build status
  | .runEnded who outcome => s.tell who outcome
  | .stopped number outcome => s.close number outcome
  | .notice front n => if s.frontNumber = front then ((dispatch n).on s).2 else s
  | .timer front number => if s.frontNumber = front then s.fire number else s

/-- The timers that are due. -/
def dueJobs (s : Session) : List Job :=
  ((s.front.map fun front => front.dueTimers s.desk.now).getD []).map fun t =>
    .timer s.frontNumber t.number

/-- One turn. -/
def turn (s : Session) : Session := (s.ready ++ s.dueJobs).foldl perform { s with ready := [] }

/-- A bound for the number of turns until everything has come to rest.  Every file that is looked
at takes as many turns as it is looked at, and everything else only a few. -/
def patience (s : Session) : Nat :=
  ((s.front.map fun front => front.timers.length).getD 0 + s.ready.length + s.tasks.length + 1) *
    (s.workspace.settings.maxRetries + 2) + 16

/-- How a session is driven. -/
def loop : Loop Session where
  busy := fun s => !s.ready.isEmpty || !s.dueJobs.isEmpty
  turn := turn
  nextDue? := fun s => s.front.bind FrontEnd.nextDue?
  atTime := fun now s => s.withDesk { s.desk with now }
  patience := patience

end ProbeKit.Session
