import ProbeKit.Session.Watching

/-!
# Tasks of a session

A task goes from stage to stage.  A task to build once ends at once if nothing is due, and else
with the run that it asked for.  A task to watch ends after it was stopped, and then only when the
last run has ended too; a failure of the start, of an event or of a build is its outcome.
-/

namespace ProbeKit.Session

/-! ### Cycles -/

/-- Ends a cycle of the workspace. -/
def endCycle (s : Session) (c : Cycle) (status : Int) : Except Fault Unit × Session :=
  let (outcome, workspace) := (Workspace.endCycle c status).on s.workspace
  (outcome, { s with workspace })

/-- Runs a cycle as far as it goes.  The result is its outcome unless the build command goes on
running. -/
def launch (owner : Owner) (s : Session) : Option (Except Fault Unit) × Session :=
  match Workspace.beginCycle.on s.workspace with
  | (.error f, workspace) => (some (.error f), { s with workspace })
  | (.ok (cycle, some status), workspace) =>
    let (outcome, s) := { s with workspace }.endCycle cycle status
    (some outcome, s)
  | (.ok (cycle, none), workspace) =>
    let build : RunningBuild := ⟨workspace.desk.builds.length - 1, owner, cycle⟩
    (none, { s with workspace, running := s.running ++ [build] })

theorem scheduler_launch (owner : Owner) (s : Session) :
    (launch owner s).2.scheduler = s.scheduler := by
  unfold launch
  split <;> rfl

/-- Goes on behind a cycle of the scheduler that has ended: with one more cycle if that was asked
for, and else with the end of the run. -/
def goOn (s : Session) (outcome : Except Fault Unit) : Session :=
  match _h : s.scheduler.endCycle outcome with
  | (.over listeners, records, scheduler) =>
    let s := { s with scheduler }.noted records
    { s with ready := s.ready ++ listeners.map fun who => .runEnded who outcome }
  | (.again, records, scheduler) =>
    match _hl : launch .run ({ s with scheduler }.noted records) with
    | (none, t) => t
    | (some outcome, t) => goOn t outcome
  termination_by s.scheduler.queued.toNat
  decreasing_by
    have := Scheduler.queued_of_endCycle_again _h
    have hs : t.scheduler = scheduler :=
      (congrArg (fun launched => launched.2.scheduler) _hl).symm.trans (scheduler_launch _ _)
    simp [hs, this]

/-- Begins a run of the scheduler. -/
def beginRun (s : Session) : Session :=
  match launch .run { s with scheduler := s.scheduler.beginCycle } with
  | (none, s) => s
  | (some outcome, s) => s.goOn outcome

/-! ### Stages -/

/-- Adds a task, which begins in the next turn. -/
def addTask (s : Session) (errand : Errand) : Session :=
  let tasks := s.tasks ++ [⟨errand, .fresh⟩]
  { s with tasks }.push (.beginTask s.tasks.length)

/-- Sets the stage of a task. -/
def setStage (s : Session) (number : Nat) (stage : Stage) : Session :=
  { s with tasks := s.tasks.modify number fun task => { task with stage } }

/-- Ends a task. -/
def endTask (s : Session) (number : Nat) (outcome : Except Fault (Option OneBuild)) : Session :=
  s.setStage number (.ended outcome)

/-- The outcome of a task without a result. -/
def withoutResult (outcome : Except Fault Unit) : Except Fault (Option OneBuild) :=
  outcome.map fun _ => none

/-! ### Building once -/

/-- Compares the current manifest with the last build. -/
def compareOnce : Act Session Detector.Report := onWorkspace do
  let m ← Workspace.currentManifest true
  let report ← Workspace.compareAll m
  if !report.due then
    Workspace.say .info "orchestrator" <|
      "Manifest unchanged (" ++ report.digest ++ "); skipping build"
  return report

/-- What came of a run that a task to build once has waited for. -/
def onceOutcome (s : Session) (digest : String) (outcome : Except Fault Unit) :
    Except Fault (Option OneBuild) :=
  outcome.map fun _ => some ⟨s.workspace.detector.lastBuilt.getD digest, true⟩

/-- Begins a task to build once. -/
def beginOnce (s : Session) (number : Nat) : Session :=
  match compareOnce.on s with
  | (.error f, s) => s.endTask number (.error f)
  | (.ok report, s) =>
    if report.due then
      -- A run that goes on already will have one more cycle, and the task waits for that run.
      match s.requestRun.2.listen (.task number) with
      | (none, s) => s.setStage number (.awaitingRun report.digest)
      | (some outcome, s) => s.endTask number (s.onceOutcome report.digest outcome)
    else s.endTask number (.ok (some ⟨report.digest, false⟩))

/-! ### Watching until stopped -/

/-- Goes on behind the end of watching. -/
def close (s : Session) (number : Nat) (outcome : Except Fault Unit) : Session :=
  let s := s.stop
  match outcome with
  | .error f => s.endTask number (.error f)
  | .ok () =>
    match s.listen (.task number) with
    | (none, s) => s.setStage number .closing
    | (some outcome, s) => s.endTask number (withoutResult outcome)

/-- Waits for the end of watching. -/
def awaitStop (s : Session) (number : Nat) : Session :=
  match s.signal with
  | some ⟨none, _⟩ =>
    { s with signal := some ⟨none, some number⟩ }.setStage number .watching
  -- An event may have ended the watching before the task came to wait for it.
  | some ⟨some outcome, _⟩ => s.close number outcome
  | none => s

/-- Begins a task to watch. -/
def beginWatch (s : Session) (number : Nat) (early : List Notice) : Session :=
  match (start early).on s with
  | (.error f, s) => s.close number (.error f)
  | (.ok (), s) => s.awaitStop number

/-! ### Going on -/

/-- Begins a task. -/
def beginTask (s : Session) (number : Nat) : Session :=
  match s.tasks[number]? with
  | none => s
  | some task =>
    match task.errand with
    | .once => s.beginOnce number
    | .watch early => s.beginWatch number early
    | .cycle =>
      match launch (.task number) s with
      | (none, s) => s.setStage number .building
      | (some outcome, s) => s.endTask number (withoutResult outcome)

/-- Tells someone how a run ended. -/
def tell (s : Session) (who : Listener) (outcome : Except Fault Unit) : Session :=
  match who with
  | .session =>
    match outcome with
    | .ok () => s
    | .error f => s.fail f
  | .task number =>
    match s.tasks[number]?.map Task.stage with
    | some (.awaitingRun digest) => s.endTask number (s.onceOutcome digest outcome)
    | some .closing => s.endTask number (withoutResult outcome)
    | _ => s

/-- Goes on behind a build command that has ended. -/
def buildEnded (s : Session) (build : RunningBuild) (status : Int) : Session :=
  let (outcome, s) := s.endCycle build.cycle status
  match build.owner with
  | .run => s.goOn outcome
  | .task number => s.endTask number (withoutResult outcome)

/-- Ends the build command that was started last, with a status.  The flag says whether it was
still running. -/
def endBuild (s : Session) (status : Int) : Bool × Session :=
  match s.running.find? fun build => build.number + 1 == s.desk.builds.length with
  | none => (false, s)
  | some build =>
    let running := s.running.filter (·.number != build.number)
    (true, { s with running }.push (.buildEnded build status))

end ProbeKit.Session
