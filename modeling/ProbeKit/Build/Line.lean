import ProbeKit.Build.Scheduler

/-!
# A line of builds

A scheduler together with the loop that drives it.  Nothing happens between two turns of the loop
but what comes from outside: requests, waiters, and the end of the cycle that runs.  A turn does
what had become ready before it, first things first.
-/

namespace ProbeKit

namespace Build

/-- The end of the cycle that runs. -/
inductive Gate where
  /-- No cycle runs, or its end is on the way. -/
  | shut
  /-- A cycle runs and can be ended. -/
  | waiting
  deriving DecidableEq, Inhabited

/-- What a turn of the loop can do. -/
inductive LineJob where
  /-- Begin the first cycle of a run. -/
  | beginRun
  /-- Go on behind a cycle that has ended. -/
  | cycleEnded (outcome : Except Fault Unit)
  /-- Let a waiter begin to wait. -/
  | beginWait (waiter : Nat)
  /-- Tell a waiter how the run ended. -/
  | tell (waiter : Nat) (outcome : Except Fault Unit)

end Build

open Build

/-- A scheduler with the loop that drives it. -/
structure Line where
  /-- The scheduler; its listeners are waiters. -/
  scheduler : Scheduler Nat := {}
  /-- The end of the cycle that runs. -/
  gate : Gate := .shut
  /-- What each waiter was told, if it was. -/
  waiters : List (Option (Except Fault Unit)) := []
  /-- What is ready to be done. -/
  ready : List LineJob := []
  /-- The journal. -/
  journal : List Record := []
  deriving Inhabited

namespace Line

/-- Asks for a build.  The flag says whether a run starts. -/
def request (l : Line) : Bool × Line :=
  let (started, records, scheduler) := l.scheduler.request
  (started,
    { l with
      scheduler, journal := l.journal ++ records
      ready := if started then l.ready ++ [.beginRun] else l.ready })

/-- Adds a waiter. -/
def addWaiter (l : Line) : Line :=
  { l with waiters := l.waiters ++ [none], ready := l.ready ++ [.beginWait l.waiters.length] }

/-- Ends the cycle that runs.  The flag says whether there was one. -/
def endCycle (l : Line) (outcome : Except Fault Unit) : Bool × Line :=
  match l.gate with
  | .shut => (false, l)
  | .waiting => (true, { l with gate := .shut, ready := l.ready ++ [.cycleEnded outcome] })

/-- Notes what a waiter was told. -/
def told (l : Line) (waiter : Nat) (outcome : Except Fault Unit) : Line :=
  { l with waiters := l.waiters.set waiter (some outcome) }

/-- Does one thing. -/
def perform (l : Line) : LineJob → Line
  | .beginRun => { l with scheduler := l.scheduler.beginCycle, gate := .waiting }
  | .cycleEnded outcome =>
    match l.scheduler.endCycle outcome with
    | (.again, records, scheduler) =>
      { l with scheduler, gate := .waiting, journal := l.journal ++ records }
    | (.over listeners, records, scheduler) =>
      { l with
        scheduler, journal := l.journal ++ records
        ready := l.ready ++ listeners.map fun waiter => .tell waiter outcome }
  | .beginWait waiter =>
    match l.scheduler.listen waiter with
    | (some outcome, scheduler) => { l with scheduler }.told waiter outcome
    | (none, scheduler) => { l with scheduler }
  | .tell waiter outcome => l.told waiter outcome

/-- One turn of the loop. -/
def turn (l : Line) : Line := l.ready.foldl perform { l with ready := [] }

/-- Turns of the loop until nothing is ready; the argument bounds their number. -/
def turns (l : Line) : Nat → Line
  | 0 => l
  | n + 1 => if l.ready.isEmpty then l else l.turn.turns n

/-- Turns of the loop until nothing is ready.  What a turn makes ready only tells waiters, so two
turns are enough. -/
def settle (l : Line) : Line := l.turns 3

end Line

end ProbeKit
