import ProbeKit.Loop
import ProbeKit.Watch.FrontEnd

/-!
# Lookouts

A lookout is a front end on its own: it watches some directories, knows some files, and keeps what
is delivered to it.  What a file system reports waits for the next turn of the loop; everything
else happens at once.
-/

namespace ProbeKit

/-- What is delivered to a lookout. -/
inductive Delivery where
  /-- Watching begins. -/
  | ready
  /-- An event. -/
  | event (e : Event)
  deriving DecidableEq, Inhabited

/-- A front end on its own. -/
structure Lookout where
  /-- The front end. -/
  front : FrontEnd
  /-- Which paths name files of interest. -/
  accepts : Path → Bool
  /-- The files that are known. -/
  known : List Path
  /-- The disk. -/
  disk : Disk
  /-- The time, in ticks. -/
  now : Nat := 0
  /-- Whether reports reach the front end. -/
  connected : Bool := false
  /-- The notices that were posted. -/
  posted : List Notice := []
  /-- What was delivered. -/
  delivered : List Delivery := []
  /-- The calls on the observer. -/
  calls : List ObserverCall := []
  /-- The journal. -/
  journal : List Record := []
  deriving Inhabited

namespace Lookout

/-- What the front end sees. -/
def sight (l : Lookout) : Sight :=
  { disk := l.disk
    now := l.now
    accepts := fun p => .ok (l.accepts p)
    tracks := fun p => .ok (l.known.contains p) }

/-- Keeps events. -/
def keep (l : Lookout) (events : List Event) : Lookout :=
  { l with delivered := l.delivered ++ events.map .event }

/-- Takes over what the front end made of notices. -/
def deliver (made : FrontEnd × List Event × Option Fault) : Act Lookout Unit := do
  modify fun l => { l with front := made.1 }.keep made.2.1
  if let some f := made.2.2 then throw f

/-- Hands a notice to the front end. -/
def dispatch (n : Notice) : Act Lookout Unit := do
  let l ← get
  deliver (l.front.take l.sight n)

/-- Starts watching.  The early notices come while observing begins, and a refusal is the message
of a listener that gives up once it has been told that watching begins. -/
def start (early : List Notice) (refusal : Option String) : Act Lookout Unit := do
  modify fun l =>
    { l with
      calls := l.calls ++ l.front.startCalls l.disk
      journal := l.journal ++ l.front.missingRecords l.disk
      connected := l.connected || !(l.front.directories l.disk).isEmpty }
  let l ← get
  if let some f := l.front.obstacle? l.disk then throw f
  early.forM dispatch
  modify fun l =>
    { l with
      front := { l.front with observing := true }
      journal := l.journal ++ [l.front.watchingRecord l.disk]
      delivered := l.delivered ++ [.ready] }
  if let some message := refusal then throw (.listener message)
  let l ← get
  deliver (l.front.openUp l.sight)

/-- Stops watching. -/
def stop (l : Lookout) : Lookout :=
  { l with front := l.front.stop, calls := l.calls ++ l.front.stopCalls }

/-- Takes a report of the file system.  The flag says whether reports reach the front end. -/
def report (l : Lookout) (r : NativeReport) : Bool × Lookout :=
  if l.connected then (true, { l with posted := l.posted ++ r.notice?.toList }) else (false, l)

/-- The files of interest that names may stand for. -/
def candidates (l : Lookout) (names : List String) : Except Fault (List Path) :=
  l.front.candidates l.sight names

/-! ### The loop -/

/-- Lets a timer fire. -/
def fire (l : Lookout) (t : Timer) : Lookout :=
  let (front, events, records) := l.front.fire l.sight t.number
  { l with front, journal := l.journal ++ records }.keep events

/-- One turn: the notices that were posted, then the timers that are due. -/
def turn (l : Lookout) : Lookout :=
  let handed := l.posted.foldl (fun l n => ((dispatch n).on l).2) { l with posted := [] }
  (l.front.dueTimers l.now).foldl fire handed

/-- How a lookout is driven. -/
def loop : Loop Lookout where
  busy := fun l => !l.posted.isEmpty || !(l.front.dueTimers l.now).isEmpty
  turn := turn
  nextDue? := fun l => l.front.nextDue?
  atTime := fun now l => { l with now }
  patience := fun l => l.front.patience + 2

end Lookout

end ProbeKit
