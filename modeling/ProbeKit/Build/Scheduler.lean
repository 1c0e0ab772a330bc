import ProbeKit.Fault
import ProbeKit.Journal.Basic

/-!
# Scheduling builds

A scheduler runs one build cycle at a time.  A request while a cycle runs asks for one more cycle
behind it, however many requests there are; a cycle that fails ends the run at once.  Whoever wants
to know how a run ends listens to it, and is told in the order in which listening began.
-/

namespace ProbeKit

/-- What has become of the last run. -/
inductive BuildRun where
  /-- There was none. -/
  | none
  /-- It goes on. -/
  | pending
  /-- It has ended. -/
  | ended (outcome : Except Fault Unit)
  deriving Inhabited

/-- A scheduler of build cycles with listeners of some kind. -/
structure Scheduler (ω : Type) where
  /-- Whether a run goes on. -/
  building : Bool := false
  /-- Whether one more cycle is asked for. -/
  queued : Bool := false
  /-- How many cycles have begun. -/
  cyclesRun : Nat := 0
  /-- The last run. -/
  run : BuildRun := .none
  /-- Who wants to know how the run ends. -/
  listeners : List ω := []
  deriving Inhabited

namespace Scheduler

variable {ω : Type}

/-- What the scheduler is doing, in a word. -/
def label (s : Scheduler ω) : String :=
  if !s.building then "idle" else if s.queued then "building+queued" else "building"

/-- Asks for a build.  The flag says whether a run starts, which then has to begin its first
cycle. -/
def request (s : Scheduler ω) : Bool × List Record × Scheduler ω :=
  if s.building then
    -- Only the first of several requests is worth a record.
    let records :=
      if s.queued then []
      else [⟨.debug, "scheduler", "Build in progress; queueing one rebuild"⟩]
    (false, records, { s with queued := true })
  else (true, [], { s with building := true, run := .pending, listeners := [] })

/-- Begins a cycle. -/
def beginCycle (s : Scheduler ω) : Scheduler ω := { s with cyclesRun := s.cyclesRun + 1 }

/-- Waits for the end of the last run.  If it is over, or there was none, the outcome is there at
once. -/
def listen (s : Scheduler ω) (who : ω) : Option (Except Fault Unit) × Scheduler ω :=
  match s.run with
  | .none => (some (.ok ()), s)
  | .ended outcome => (some outcome, s)
  | .pending => (none, { s with listeners := s.listeners ++ [who] })

/-- What follows the end of a cycle. -/
inductive Next (ω : Type) where
  /-- One more cycle. -/
  | again
  /-- The end of the run, with those who are to be told. -/
  | over (listeners : List ω)

/-- The end of a run. -/
def finish (s : Scheduler ω) (outcome : Except Fault Unit) : Next ω × Scheduler ω :=
  (.over s.listeners,
    { s with building := false, queued := false, run := .ended outcome, listeners := [] })

/-- The end of a cycle.  After a success one more cycle follows if it was asked for, and it begins
at once. -/
def endCycle (s : Scheduler ω) (outcome : Except Fault Unit) :
    Next ω × List Record × Scheduler ω :=
  match outcome with
  | .ok () =>
    if s.queued then
      (.again, [⟨.info, "scheduler", "Running coalesced rebuild"⟩],
        { s with queued := false }.beginCycle)
    else
      let (next, s) := s.finish (.ok ())
      (next, [], s)
  | .error f =>
    let (next, s) := s.finish (.error f)
    (next, [], s)

/-- One more cycle follows only if it was asked for, and then it is asked for no more. -/
theorem queued_of_endCycle_again {s t : Scheduler ω} {outcome : Except Fault Unit}
    {records : List Record} (h : s.endCycle outcome = (.again, records, t)) :
    s.queued = true ∧ t.queued = false := by
  unfold endCycle finish at h
  cases outcome <;> grind [beginCycle]

end Scheduler

end ProbeKit
