import ProbeKit.Build.Scheduler
import ProbeKit.Watch.FrontEnd
import ProbeKit.Workspace.Cycle

/-!
# Sessions

A session is a workspace at work.  A scheduler runs its build cycles, a front end may watch its
sources, and tasks are carried out in it: to build once, to run a cycle at once, to watch until
stopped.  A task goes on whenever what it waits for has come, and whatever is ready to go on waits
in a queue for the next turn of the loop.
-/

namespace ProbeKit

namespace Session

/-- What came of a task to build once. -/
structure OneBuild where
  /-- The digest of the manifest. -/
  digest : String
  /-- Whether a build was run. -/
  built : Bool
  deriving DecidableEq, Inhabited

/-- What a task is to do. -/
inductive Errand where
  /-- To build if a build is due. -/
  | once
  /-- To run a cycle, whatever the scheduler does. -/
  | cycle
  /-- To watch until stopped.  The notices come while observing begins. -/
  | watch (early : List Notice)
  deriving Inhabited

/-- How far a task has come. -/
inductive Stage where
  /-- It has not begun. -/
  | fresh
  /-- Its own cycle runs. -/
  | building
  /-- It waits for the end of a run, with the digest that made a build due. -/
  | awaitingRun (digest : String)
  /-- It watches and waits for a stop. -/
  | watching
  /-- It has stopped watching and waits for the end of a run. -/
  | closing
  /-- It has ended. -/
  | ended (outcome : Except Fault (Option OneBuild))
  deriving Inhabited

/-- A task. -/
structure Task where
  /-- What is to be done. -/
  errand : Errand
  /-- How far it has come. -/
  stage : Stage := .fresh
  deriving Inhabited

/-- Who is told how a run of the scheduler ends. -/
inductive Listener where
  /-- The session. -/
  | session
  /-- A task. -/
  | task (number : Nat)
  deriving DecidableEq, Inhabited

/-- Whose cycle it is. -/
inductive Owner where
  /-- That of the run of the scheduler. -/
  | run
  /-- That of a task. -/
  | task (number : Nat)
  deriving DecidableEq, Inhabited

/-- A build command that goes on running. -/
structure RunningBuild where
  /-- The number of the build. -/
  number : Nat
  /-- Whose cycle it belongs to. -/
  owner : Owner
  /-- The cycle. -/
  cycle : Cycle
  deriving Inhabited

/-- The end of watching, which a task may wait for. -/
structure Signal where
  /-- How watching ended, if it has. -/
  outcome : Option (Except Fault Unit) := none
  /-- The task that waits. -/
  waiter : Option Nat := none
  deriving Inhabited

/-- What is ready to go on. -/
inductive Job where
  /-- A task begins. -/
  | beginTask (number : Nat)
  /-- A run of the scheduler begins. -/
  | beginRun
  /-- A build command has ended with a status. -/
  | buildEnded (build : RunningBuild) (status : Int)
  /-- Someone is told how a run ended. -/
  | runEnded (who : Listener) (outcome : Except Fault Unit)
  /-- A task is told how watching ended. -/
  | stopped (number : Nat) (outcome : Except Fault Unit)
  /-- A notice for the front end of a number. -/
  | notice (front : Nat) (n : Notice)
  /-- A timer of the front end of a number. -/
  | timer (front : Nat) (number : Nat)
  deriving Inhabited

end Session

open Session

/-- A workspace at work. -/
structure Session where
  /-- The workspace. -/
  workspace : Workspace
  /-- The scheduler of builds. -/
  scheduler : Scheduler Listener := {}
  /-- The build commands that go on running. -/
  running : List RunningBuild := []
  /-- The tasks. -/
  tasks : List Task := []
  /-- The front end, while there is one. -/
  front : Option FrontEnd := none
  /-- The number of the last front end. -/
  frontNumber : Nat := 0
  /-- The number of the front end that reports reach. -/
  connected : Option Nat := none
  /-- The end of watching. -/
  signal : Option Signal := none
  /-- What is ready to go on. -/
  ready : List Job := []
  deriving Inhabited

namespace Session

/-- Opens a session; `rescan` leaves an existing manifest aside, and with `force` every build is
due. -/
def openUp (s : Settings) (rescan force : Bool) : Act Desk Session := do
  return { workspace := ← Workspace.openUp s rescan force }

/-- The desk. -/
def desk (s : Session) : Desk := s.workspace.desk

/-- The session with another desk. -/
def withDesk (s : Session) (desk : Desk) : Session :=
  { s with workspace := { s.workspace with desk } }

/-- An action on the workspace. -/
def onWorkspace {α : Type} (a : Act Workspace α) : Act Session α :=
  a.within Session.workspace fun workspace s => { s with workspace }

/-- Enters records in the journal. -/
def noted (s : Session) (records : List Record) : Session :=
  s.withDesk (s.desk.noteAll records)

/-- Has something go on in the next turn. -/
def push (s : Session) (job : Job) : Session := { s with ready := s.ready ++ [job] }

/-! ### Runs of the scheduler -/

/-- Asks for a build.  The flag says whether a run starts. -/
def requestRun (s : Session) : Bool × Session :=
  let (started, records, scheduler) := s.scheduler.request
  let s := { s with scheduler }.noted records
  (started, if started then s.push .beginRun else s)

/-- Waits for the end of the run.  If it is over the outcome is there at once. -/
def listen (s : Session) (who : Listener) : Option (Except Fault Unit) × Session :=
  let (outcome, scheduler) := s.scheduler.listen who
  (outcome, { s with scheduler })

/-- Asks for a build whose failure ends the watching.  The flag says whether a run starts. -/
def requestBuild (s : Session) : Bool × Session :=
  match s.requestRun with
  | (true, s) => (true, (s.listen .session).2)
  | (false, s) => (false, s)

/-! ### The end of watching -/

/-- Ends the watching, unless it has ended before, and tells who waits for that. -/
def resolve (s : Session) (outcome : Except Fault Unit) : Session :=
  match s.signal with
  | some ⟨none, waiter⟩ =>
    let s := { s with signal := some ⟨some outcome, waiter⟩ }
    match waiter with
    | some number => s.push (.stopped number outcome)
    | none => s
  | _ => s

/-- Ends the watching with a failure. -/
def fail (s : Session) (f : Fault) : Session := s.resolve (.error f)

end Session

end ProbeKit
