import ProbeKit.Session.Loop

/-!
# Companies

A company is a number of sessions that share a desk and a loop.  A session that is no longer the
newest one is not stopped: what it was waiting for still comes, and its timers still fire.  The
things that are ready, of whatever session, are carried on in the order in which they became ready.
-/

namespace ProbeKit

/-- Sessions that share a desk. -/
structure Company where
  /-- The desk. -/
  desk : Desk
  /-- The sessions, the oldest first.  The desk is that of the company while one of them acts. -/
  sessions : List Session := []
  /-- What is ready to go on, with the numbers of the sessions. -/
  ready : List (Nat × Session.Job) := []
  deriving Inhabited

namespace Company

/-- The newest session as it is at the shared desk. -/
def newest? (c : Company) : Option Session := c.sessions.getLast?.map (·.withDesk c.desk)

/-- Adds a session. -/
def add (c : Company) (s : Session) : Company :=
  { c with
    desk := s.desk
    sessions := c.sessions ++ [{ s with ready := [] }]
    ready := c.ready ++ s.ready.map fun job => (c.sessions.length, job) }

/-- Lets the session with a number act at the shared desk. -/
def act {α : Type} (c : Company) (number : Nat) (f : Session → α × Session) : Option α × Company :=
  match c.sessions[number]? with
  | none => (none, c)
  | some s =>
    let (result, s) := f ({ s with ready := [] }.withDesk c.desk)
    (some result,
      { desk := s.desk
        sessions := c.sessions.set number { s with ready := [] }
        ready := c.ready ++ s.ready.map fun job => (number, job) })

/-- Lets the newest session act. -/
def actNewest {α : Type} (c : Company) (f : Session → α × Session) : Option α × Company :=
  c.act (c.sessions.length - 1) f

/-- Ends the build command that was started last, with a status.  The flag says whether it was
still running. -/
def endBuild (c : Company) (status : Int) : Bool × Company :=
  let isLast (s : Session) : Bool := s.running.any fun b => b.number + 1 == c.desk.builds.length
  match c.sessions.findIdx? isLast with
  | none => (false, c)
  | some number =>
    let (ended, c) := c.act number fun s => s.endBuild status
    (ended.getD false, c)

/-! ### The loop -/

/-- The timers that are due, by their times and then by their sessions. -/
def dueTimers (c : Company) : List (Nat × Timer) :=
  let timers := c.sessions.zipIdx.flatMap fun (s, number) =>
    ((s.front.map fun front => front.dueTimers c.desk.now).getD []).map fun t => (number, t)
  timers.mergeSort fun a b => decide (a.2.due.getD 0 ≤ b.2.due.getD 0)

/-- What is to be carried on for a timer. -/
def jobOf (c : Company) (due : Nat × Timer) : Nat × Session.Job :=
  (due.1, .timer ((c.sessions[due.1]?.map (·.frontNumber)).getD 0) due.2.number)

/-- Carries on. -/
def perform (c : Company) (job : Nat × Session.Job) : Company :=
  (c.act job.1 fun s => ((), s.perform job.2)).2

/-- One turn. -/
def turn (c : Company) : Company :=
  (c.ready ++ c.dueTimers.map c.jobOf).foldl perform { c with ready := [] }

/-- A bound for the number of turns until everything has come to rest. -/
def patience (c : Company) : Nat :=
  c.sessions.foldl (fun n s => n + s.patience) (c.ready.length + 1) * (c.sessions.length + 2)

/-- How a company is driven. -/
def loop : Loop Company where
  busy := fun c => !c.ready.isEmpty || !c.dueTimers.isEmpty
  turn := turn
  nextDue? := fun c => (c.sessions.filterMap fun s => s.front.bind FrontEnd.nextDue?).min?
  atTime := fun now c => { c with desk := { c.desk with now } }
  patience := patience

end Company

end ProbeKit
