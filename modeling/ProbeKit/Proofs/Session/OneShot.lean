import ProbeKit.Proofs.Workspace.Once
import ProbeKit.Session.Loop

/-!
# One-shot runs

A task to build once in a session that does nothing else takes a few turns of the loop, with the end
of its build command in between.  `Session.buildOnce_eq` says what comes of them: what
`Workspace.runOnce` makes of the workspace, step after step and without a loop.
-/

namespace ProbeKit

open Act

namespace Session

open Workspace

/-- Nothing goes on in a session. -/
structure Idle (s : Session) : Prop where
  /-- Nothing is ready. -/
  ready : s.ready = []
  /-- Nothing is watched. -/
  front : s.front = none
  /-- No command runs. -/
  running : s.running = []
  /-- The scheduler rests. -/
  building : s.scheduler.building = false
  /-- No rebuild is asked for. -/
  queued : s.scheduler.queued = false

/-- Builds once, with a command that ends with a status unless it ends by itself. -/
def buildOnce (status : Int) (s : Session) : Session :=
  loop.settle ((loop.settle (s.addTask .once)).endBuild status).2

/-! ### Turns -/

theorem turns_of_idle {s : Session} (hready : s.ready = []) (hfront : s.front = none) (n : Nat) :
    loop.turns n s = s := by
  cases n with
  | zero => rfl
  | succ n =>
    have hbusy : loop.busy s = false := by simp [loop, dueJobs, hready, hfront]
    rw [Loop.turns, hbusy]
    rfl

theorem turns_of_ready {s : Session} {job : Job} (hready : s.ready = [job])
    (hfront : s.front = none) (n : Nat) :
    loop.turns (n + 1) s = loop.turns n ({ s with ready := [] }.perform job) := by
  have hbusy : loop.busy s = true := by simp [loop, hready]
  rw [Loop.turns, hbusy, if_pos rfl]
  show loop.turns n s.turn = _
  unfold turn dueJobs
  rw [hready, hfront]
  rfl

/-- What alone is ready is carried on. -/
theorem turns_push {s : Session} (hready : s.ready = []) (hfront : s.front = none) (job : Job)
    (n : Nat) : loop.turns (n + 1) (s.push job) = loop.turns n (s.perform job) := by
  have hpushed : (s.push job).ready = [job] := by
    show s.ready ++ [job] = [job]
    rw [hready]
    rfl
  have hcleared : { s.push job with ready := [] } = s := by
    rw [← hready]
    rfl
  rw [turns_of_ready hpushed hfront, hcleared]

theorem exists_patience (s : Session) : ∃ n, loop.patience s = n + 4 := by
  have h : 16 ≤ loop.patience s := Nat.le_add_left _ _
  exact ⟨loop.patience s - 4, by omega⟩

/-- Where nothing goes on nothing comes of more turns, nor of the end of a command. -/
theorem settle_endBuild {s : Session} (hready : s.ready = []) (hfront : s.front = none)
    (hrunning : s.running = []) (status : Int) (n : Nat) :
    loop.settle ((loop.turns n s).endBuild status).2 = s := by
  have hend : (s.endBuild status).2 = s := by
    unfold endBuild
    rw [hrunning]
    rfl
  rw [turns_of_idle hready hfront, hend]
  exact turns_of_idle hready hfront _

/-! ### The end of a run -/

/-- A task that waits for a run is told how it ended. -/
theorem turns_runEnded {s : Session} {k : Nat} {outcome : Except Fault Unit} {digest : String}
    (hready : s.ready = [.runEnded (.task k) outcome]) (hfront : s.front = none)
    (hstage : s.tasks[k]?.map Task.stage = some (.awaitingRun digest)) (n : Nat) :
    loop.turns (n + 1) s =
      { s with ready := [] }.endTask k (s.onceOutcome digest outcome) := by
  rw [turns_of_ready hready hfront]
  show loop.turns n ({ s with ready := [] }.tell (.task k) outcome) = _
  unfold tell
  dsimp only
  rw [hstage]
  exact turns_of_idle (s := { s with ready := [] }.endTask k _) rfl hfront n

/-- The end of a cycle that no other follows is the end of the run. -/
theorem goOn_of_over {s : Session} {outcome : Except Fault Unit}
    (hend : s.scheduler.endCycle outcome =
      (.over s.scheduler.listeners, [], (s.scheduler.finish outcome).2)) :
    s.goOn outcome =
      { s with
        scheduler := (s.scheduler.finish outcome).2
        ready := s.ready ++ s.scheduler.listeners.map fun who => .runEnded who outcome } := by
  unfold goOn
  split
  · rename_i h
    rw [hend] at h
    cases h
    rfl
  · rename_i h
    rw [hend] at h
    cases h

theorem endCycle_of_not_queued {s : Session} (hqueued : s.scheduler.queued = false)
    (outcome : Except Fault Unit) : s.scheduler.endCycle outcome =
      (.over s.scheduler.listeners, [], (s.scheduler.finish outcome).2) := by
  unfold Scheduler.endCycle
  cases outcome with
  | error f => rfl
  | ok _ =>
    rw [hqueued]
    rfl

theorem goOn_of_not_queued {s : Session} (hqueued : s.scheduler.queued = false)
    (outcome : Except Fault Unit) :
    s.goOn outcome =
      { s with
        scheduler := (s.scheduler.finish outcome).2
        ready := s.ready ++ s.scheduler.listeners.map fun who => .runEnded who outcome } :=
  goOn_of_over (endCycle_of_not_queued hqueued outcome)

/-! ### The beginning of the task -/

theorem modify_concat {α : Type} (xs : List α) (x : α) (f : α → α) :
    (xs ++ [x]).modify xs.length f = xs ++ [f x] := by
  induction xs with
  | nil => rfl
  | cons y rest ih => exact congrArg (y :: ·) ih

/-- A session with one more task to build once, at some stage. -/
def withOnce (s : Session) (stage : Stage) : Session :=
  { s with tasks := s.tasks ++ [⟨.once, stage⟩] }

theorem setStage_withOnce (s : Session) (stage stage' : Stage) :
    (s.withOnce stage).setStage s.tasks.length stage' = s.withOnce stage' := by
  unfold setStage withOnce
  rw [modify_concat]

theorem perform_beginTask (s : Session) :
    (s.withOnce .fresh).perform (.beginTask s.tasks.length) =
      (s.withOnce .fresh).beginOnce s.tasks.length := by
  show (s.withOnce .fresh).beginTask s.tasks.length = _
  unfold beginTask withOnce
  dsimp only
  rw [List.getElem?_concat_length]

theorem on_compareOnce {s : Session} {r : Except Fault Detector.Report} {w : Workspace}
    (hcheck : check.on s.workspace = (r, w)) (stage : Stage) :
    compareOnce.on (s.withOnce stage) = (r, { s with workspace := w }.withOnce stage) := by
  show (onWorkspace check).on _ = _
  rw [onWorkspace, on_within]
  show ((check.on s.workspace).1,
    { s.withOnce stage with workspace := (check.on s.workspace).2 }) = _
  rw [hcheck]
  rfl

theorem turns_addTask {s : Session} (h : Idle s) (n : Nat) :
    loop.turns (n + 1) (s.addTask .once) =
      loop.turns n ((s.withOnce .fresh).beginOnce s.tasks.length) := by
  rw [← perform_beginTask]
  exact turns_push (s := s.withOnce .fresh) h.ready h.front _ n

/-- The scheduler of an idle session once a task has asked for a run and waits for it. -/
def awaited (s : Session) : Scheduler Listener :=
  { s.scheduler with building := true, run := .pending, listeners := [.task s.tasks.length] }

theorem beginOnce_of_error {s : Session} {f : Fault} {w : Workspace}
    (hcheck : check.on s.workspace = (.error f, w)) :
    (s.withOnce .fresh).beginOnce s.tasks.length =
      { s with workspace := w }.withOnce (.ended (.error f)) := by
  unfold beginOnce
  rw [on_compareOnce hcheck]
  exact setStage_withOnce { s with workspace := w } .fresh _

theorem beginOnce_of_not_due {s : Session} {report : Detector.Report} {w : Workspace}
    (hcheck : check.on s.workspace = (.ok report, w)) (hdue : report.due = false) :
    (s.withOnce .fresh).beginOnce s.tasks.length =
      { s with workspace := w }.withOnce (.ended (.ok (some ⟨report.digest, false⟩))) := by
  unfold beginOnce
  rw [on_compareOnce hcheck]
  dsimp only
  rw [hdue, if_neg Bool.false_ne_true]
  exact setStage_withOnce { s with workspace := w } .fresh _

/-- A session with one more task to build once that waits for a run. -/
def waiting (s : Session) (digest : String) (w : Workspace) (sch : Scheduler Listener) : Session :=
  { s with workspace := w, scheduler := sch }.withOnce (.awaitingRun digest)

theorem beginOnce_of_due {s : Session} (h : Idle s) {report : Detector.Report} {w : Workspace}
    (hcheck : check.on s.workspace = (.ok report, w)) (hdue : report.due = true) :
    (s.withOnce .fresh).beginOnce s.tasks.length =
      (s.waiting report.digest w s.awaited).push .beginRun := by
  unfold beginOnce
  rw [on_compareOnce hcheck]
  dsimp only
  rw [if_pos hdue]
  have hrequest : ({ s with workspace := w }.withOnce .fresh).requestRun.2 =
      ({ s with workspace := w,
                scheduler := { s.scheduler with building := true, run := .pending, listeners := [] }
        }.withOnce .fresh).push .beginRun := by
    unfold requestRun Scheduler.request withOnce
    dsimp only
    rw [h.building]
    rfl
  rw [hrequest]
  exact congrArg (fun t : Session => t.push .beginRun)
    (setStage_withOnce { s with workspace := w, scheduler := s.awaited } .fresh _)

/-! ### The run -/

/-- A session whose only task waits for the end of the run. -/
structure Awaits (s : Session) (k : Nat) (digest : String) : Prop where
  /-- Nothing is ready. -/
  ready : s.ready = []
  /-- Nothing is watched. -/
  front : s.front = none
  /-- No rebuild is asked for. -/
  queued : s.scheduler.queued = false
  /-- The task listens. -/
  listeners : s.scheduler.listeners = [.task k]
  /-- The task waits. -/
  stage : s.tasks[k]?.map Task.stage = some (.awaitingRun digest)

/-- The end of its only cycle ends the run and the task. -/
theorem turns_goOn {s : Session} {k : Nat} {digest : String} (h : s.Awaits k digest)
    (outcome : Except Fault Unit) (n : Nat) :
    loop.turns (n + 1) (s.goOn outcome) =
      { s with scheduler := (s.scheduler.finish outcome).2 }.endTask k
        (s.onceOutcome digest outcome) := by
  rw [goOn_of_not_queued h.queued, h.listeners, h.ready]
  exact turns_runEnded (s := { s with
    scheduler := (s.scheduler.finish outcome).2, ready := [.runEnded (.task k) outcome] })
    rfl h.front h.stage n

theorem awaits_waiting {s : Session} (h : Idle s) (digest : String) (w : Workspace)
    (sch : Scheduler Listener) (hqueued : sch.queued = false)
    (hlisteners : sch.listeners = [.task s.tasks.length]) :
    (s.waiting digest w sch).Awaits s.tasks.length digest := by
  refine ⟨h.ready, h.front, hqueued, hlisteners, ?_⟩
  show (s.tasks ++ [_])[s.tasks.length]?.map Task.stage = _
  rw [List.getElem?_concat_length]
  rfl

/-- What a finished run makes of an idle session that has one more task to build once. -/
def afterRun (s : Session) (digest : String) (outcome : Except Fault Unit) (w : Workspace) :
    Session :=
  { s with workspace := w, scheduler := (s.awaited.beginCycle.finish outcome).2 }.withOnce
    (.ended (outcome.map fun _ => some ⟨w.detector.lastBuilt.getD digest, true⟩))

theorem turns_afterRun {s : Session} (h : Idle s) (digest : String) (w : Workspace)
    (outcome : Except Fault Unit) (n : Nat) :
    loop.turns (n + 1) ((s.waiting digest w s.awaited.beginCycle).goOn outcome) =
      s.afterRun digest outcome w := by
  rw [turns_goOn (awaits_waiting h digest w s.awaited.beginCycle h.queued rfl)]
  exact setStage_withOnce
    { s with workspace := w, scheduler := (s.awaited.beginCycle.finish outcome).2 }
    (.awaitingRun digest) _

/-! ### The cycle of the run -/

section
variable {owner : Owner} {s : Session} {w : Workspace}

theorem launch_of_error {f : Fault} (h : beginCycle.on s.workspace = (.error f, w)) :
    launch owner s = (some (.error f), { s with workspace := w }) := by
  rw [launch, h]

theorem launch_of_ended {c : Cycle} {status : Int}
    (h : beginCycle.on s.workspace = (.ok (c, some status), w)) :
    launch owner s = (some ((Workspace.endCycle c status).on w).1,
      { s with workspace := ((Workspace.endCycle c status).on w).2 }) := by
  rw [launch, h]
  rfl

theorem launch_of_running {c : Cycle} (h : beginCycle.on s.workspace = (.ok (c, none), w)) :
    launch owner s = (none,
      { s with
        workspace := w, running := s.running ++ [⟨w.desk.builds.length - 1, owner, c⟩] }) := by
  rw [launch, h]

end

/-- A command that was started is among the builds. -/
theorem builds_of_beginCycle {w w' : Workspace} {c : Cycle} {ended : Option Int}
    (h : beginCycle.on w = (.ok (c, ended), w')) :
    w'.desk.builds.length - 1 + 1 = w'.desk.builds.length := by
  rw [on_beginCycle] at h
  rcases hp : prepare.on w with ⟨f | m, w₁⟩
  · rw [hp] at h
    cases h
  rw [hp] at h
  dsimp only at h
  rcases hs : w₁.desk.tool.start w₁.settings.command w₁.settings.root w₁.desk.disk with
    e | ⟨disk, status⟩
  · rw [hs] at h
    cases h
  rw [hs] at h
  cases h
  show (w₁.desk.builds ++ [_]).length - 1 + 1 = (w₁.desk.builds ++ [_]).length
  rw [List.length_append]
  rfl

/-- What becomes of a session once a cycle was launched. -/
def afterLaunch (launched : Option (Except Fault Unit) × Session) : Session :=
  match launched with
  | (none, s) => s
  | (some outcome, s) => s.goOn outcome

/-- A cycle that was asked for while another one went on is launched behind it. -/
theorem goOn_of_again {s : Session} {outcome : Except Fault Unit} {records : List Record}
    {scheduler : Scheduler Listener}
    (hend : s.scheduler.endCycle outcome = (.again, records, scheduler)) :
    s.goOn outcome = afterLaunch (launch .run ({ s with scheduler }.noted records)) := by
  rw [goOn]
  split
  · rename_i hover
    rw [hend] at hover
    cases hover
  · rename_i hagain
    rw [hend] at hagain
    cases hagain
    split <;> (rename_i hlaunch; rw [hlaunch]; rfl)

/-- The end of a build command is to be looked at. -/
theorem endBuild_of_find? {s : Session} {build : RunningBuild}
    (h : s.running.find? (fun build => build.number + 1 == s.desk.builds.length) = some build)
    (status : Int) : s.endBuild status =
      (true, { s with running := s.running.filter (·.number != build.number) }.push
        (.buildEnded build status)) := by
  unfold endBuild
  rw [h]

/-- A command that goes on running comes to its end, and the run with it. -/
theorem settle_running {s : Session} (h : Idle s) (digest : String) (w : Workspace) (status : Int)
    {b : RunningBuild} (hnumber : b.number + 1 = w.desk.builds.length) (howner : b.owner = .run) :
    loop.settle ({ s.waiting digest w s.awaited.beginCycle with running := [b] }.endBuild status).2 =
      s.afterRun digest ((Workspace.endCycle b.cycle status).on w).1
        ((Workspace.endCycle b.cycle status).on w).2 := by
  have hend : ({ s.waiting digest w s.awaited.beginCycle with running := [b] }.endBuild status).2 =
      (s.waiting digest w s.awaited.beginCycle).push (.buildEnded b status) := by
    have hfind : [b].find? (fun build => build.number + 1 == w.desk.builds.length) = some b := by
      simp [hnumber]
    have hfilter : [b].filter (·.number != b.number) = s.running := by
      rw [h.running]
      simp
    rw [endBuild_of_find? (s := { s.waiting digest w s.awaited.beginCycle with running := [b] }) hfind]
    show Session.push _ _ = _
    rw [hfilter]
    rfl
  obtain ⟨n, hn⟩ := exists_patience
    ((s.waiting digest w s.awaited.beginCycle).push (.buildEnded b status))
  rw [hend, Loop.settle, hn, turns_push (s := s.waiting digest w _) h.ready h.front]
  show loop.turns (n + 3) ((s.waiting digest w s.awaited.beginCycle).buildEnded b status) = _
  unfold buildEnded
  rw [howner]
  exact turns_afterRun h digest _ _ (n + 2)

/-- The run of a task to build once, up to the end of its command and behind it. -/
theorem buildOnce_run {s : Session} (h : Idle s) (digest : String) (w : Workspace) (status : Int)
    (n : Nat) :
    loop.settle ((loop.turns (n + 2) ((s.waiting digest w s.awaited).push .beginRun)).endBuild
        status).2 =
      s.afterRun digest ((runCycle status).on w).1 ((runCycle status).on w).2 := by
  rw [turns_push (s := s.waiting digest w _) h.ready h.front]
  show loop.settle ((loop.turns (n + 1) (afterLaunch (launch .run
    (s.waiting digest w s.awaited.beginCycle)))).endBuild status).2 = _
  -- Once the run is over nothing waits for the command any more.
  have hdone (outcome : Except Fault Unit) (w' : Workspace) :
      loop.settle ((s.afterRun digest outcome w').endBuild status).2 =
        s.afterRun digest outcome w' :=
    settle_endBuild (s := s.afterRun digest outcome w') h.ready h.front h.running status 0
  -- A cycle fails to begin, is over as it begins, or waits for its command.
  rcases hb : beginCycle.on w with ⟨f | ⟨c, ended⟩, w'⟩
  · rw [launch_of_error (s := s.waiting digest w _) hb, runCycle, on_bind_of_error hb]
    show loop.settle ((loop.turns (n + 1) ((s.waiting digest w' s.awaited.beginCycle).goOn
      (.error f))).endBuild status).2 = _
    rw [turns_afterRun h, hdone]
  cases ended with
  | some ended =>
    rw [launch_of_ended (s := s.waiting digest w _) hb, runCycle, on_bind_of_ok hb]
    show loop.settle ((loop.turns (n + 1) ((s.waiting digest _ s.awaited.beginCycle).goOn
      _)).endBuild status).2 = _
    rw [turns_afterRun h, hdone]
    rfl
  | none =>
    rw [launch_of_running (s := s.waiting digest w _) hb, runCycle, on_bind_of_ok hb]
    have hrunning : (s.waiting digest w s.awaited.beginCycle).running = [] := h.running
    dsimp only
    rw [hrunning, List.nil_append, turns_of_idle (by exact h.ready) (by exact h.front)]
    exact settle_running h digest w' status (b := ⟨w'.desk.builds.length - 1, .run, c⟩)
      (builds_of_beginCycle hb) rfl

/-! ### Building once -/

/-- **A one-shot run of an idle session is `runOnce` on its workspace**, and leaves the session
idle. -/
theorem buildOnce_eq {s : Session} (h : Idle s) (status : Int) :
    ∃ scheduler : Scheduler Listener, scheduler.building = false ∧ scheduler.queued = false ∧
      s.buildOnce status =
        { s with workspace := ((runOnce status).on s.workspace).2, scheduler }.withOnce
          (.ended (((runOnce status).on s.workspace).1.map some)) := by
  -- The loop has turns enough for the task to begin.
  obtain ⟨n, hn⟩ := exists_patience (s.addTask .once)
  have hfirst : loop.settle (s.addTask .once) =
      loop.turns (n + 3) ((s.withOnce .fresh).beginOnce s.tasks.length) := by
    rw [Loop.settle, hn, turns_addTask h]
  unfold buildOnce
  rw [hfirst]
  rcases hcheck : check.on s.workspace with ⟨f | report, w⟩
  · refine ⟨s.scheduler, h.building, h.queued, ?_⟩
    have hrun : (runOnce status).on s.workspace = (.error f, w) := by
      rw [runOnce, on_bind_of_error hcheck]
    have hrest := settle_endBuild (s := { s with workspace := w }.withOnce (.ended (.error f)))
      h.ready h.front h.running status (n + 3)
    rw [beginOnce_of_error hcheck, hrest, hrun]
    rfl
  cases hdue : report.due with
  | false =>
    refine ⟨s.scheduler, h.building, h.queued, ?_⟩
    have hrun : (runOnce status).on s.workspace = (.ok ⟨report.digest, false⟩, w) := by
      rw [runOnce, on_bind_of_ok hcheck, hdue]
      rfl
    have hrest := settle_endBuild (s := { s with workspace := w }.withOnce
      (.ended (.ok (some ⟨report.digest, false⟩)))) h.ready h.front h.running status (n + 3)
    rw [beginOnce_of_not_due hcheck hdue, hrest, hrun]
    rfl
  | true =>
    refine ⟨(s.awaited.beginCycle.finish ((runCycle status).on w).1).2, rfl, rfl, ?_⟩
    have hrun : (runOnce status).on s.workspace = (runCycle status >>= fun _ => do
        return ⟨(← get).detector.lastBuilt.getD report.digest, true⟩).on w := by
      rw [runOnce, on_bind_of_ok hcheck, hdue]
      rfl
    rw [beginOnce_of_due h hcheck hdue, buildOnce_run h, hrun]
    rcases hcycle : (runCycle status).on w with ⟨f | ⟨⟩, w'⟩
    · rw [on_bind_of_error hcycle]
      rfl
    · rw [on_bind_of_ok hcycle]
      rfl

/-- What came of the task that was added last. -/
def lastOutcome (s : Session) : Option (Except Fault (Option OneBuild)) :=
  match s.tasks.getLast?.map Task.stage with
  | some (.ended outcome) => some outcome
  | _ => none

theorem lastOutcome_withOnce (s : Session) (outcome : Except Fault (Option OneBuild)) :
    (s.withOnce (.ended outcome)).lastOutcome = some outcome := by
  unfold lastOutcome withOnce
  rw [List.getLast?_concat]
  rfl

/-! ### Fresh sessions -/

/-- Opens a session and writes the manifest in it. -/
def emitFresh (s : Settings) (rescan force : Bool) (d : Desk) :
    Except Fault Workspace.Emitted × Desk :=
  match (openUp s rescan force).on d with
  | (.error f, d) => (.error f, d)
  | (.ok session, _) =>
    let (made, session) := (onWorkspace Workspace.emit).on session
    (made, session.desk)

/-- Opens a session and builds once in it.  There is no outcome if the task never ends. -/
def buildFresh (s : Settings) (rescan force : Bool) (status : Int) (d : Desk) :
    Option (Except Fault (Option OneBuild)) × Desk :=
  match (openUp s rescan force).on d with
  | (.error f, d) => (some (.error f), d)
  | (.ok session, _) =>
    let session := session.buildOnce status
    (session.lastOutcome, session.desk)

theorem on_openUp (s : Settings) (rescan force : Bool) (d : Desk) :
    (openUp s rescan force).on d =
      match (Workspace.openUp s rescan force).on d with
      | (.error f, d) => (.error f, d)
      | (.ok w, d) => (.ok { workspace := w }, d) := by
  unfold openUp
  rw [on_bind]
  rcases (Workspace.openUp s rescan force).on d with ⟨f | w, d'⟩ <;> rfl

theorem emitFresh_eq (s : Settings) (rescan force : Bool) (d : Desk) :
    emitFresh s rescan force d =
      match (Workspace.openUp s rescan force).on d with
      | (.error f, d) => (.error f, d)
      | (.ok w, _) => ((Workspace.emit.on w).1, (Workspace.emit.on w).2.desk) := by
  unfold emitFresh
  rw [on_openUp]
  rcases (Workspace.openUp s rescan force).on d with ⟨f | w, d'⟩
  · rfl
  · dsimp only
    rw [onWorkspace, on_within]
    rfl

/-- A fresh session builds once as `runOnce` does. -/
theorem buildFresh_eq (s : Settings) (rescan force : Bool) (status : Int) (d : Desk) :
    buildFresh s rescan force status d =
      match (Workspace.openUp s rescan force).on d with
      | (.error f, d) => (some (.error f), d)
      | (.ok w, _) =>
        (some (((runOnce status).on w).1.map some), ((runOnce status).on w).2.desk) := by
  unfold buildFresh
  rw [on_openUp]
  rcases (Workspace.openUp s rescan force).on d with ⟨f | w, d'⟩
  · rfl
  · dsimp only
    have hidle : Idle { workspace := w } := ⟨rfl, rfl, rfl, rfl, rfl⟩
    obtain ⟨scheduler, -, -, h⟩ := buildOnce_eq hidle status
    rw [h, lastOutcome_withOnce]
    rfl

end Session

end ProbeKit
