import ProbeKit.Proofs.Session.Course

/-!
# No failure is forgotten

Whatever fails while a session watches either ends the watching with a fault or is on its way to do
so (`Course.Sound`), and a fault that ends it comes from something that has failed.  Every change
that an event or a run of the scheduler makes of a session keeps this.
-/

namespace ProbeKit

open Act Session
open Workspace (SameCalls)

namespace Session

variable {s t u : Session}

/-! ### What stays -/

/-- The task, the front end and the observer are as they were. -/
structure Kept (s t : Session) : Prop where
  /-- The tasks. -/
  tasks : t.tasks = s.tasks
  /-- The front end. -/
  front : t.front = s.front
  /-- The calls on the observer. -/
  calls : SameCalls s.workspace t.workspace

theorem Kept.refl (s : Session) : Kept s s := ⟨rfl, rfl, .refl _⟩

theorem Kept.trans (h : Kept s t) (h' : Kept t u) : Kept s u :=
  ⟨h'.tasks.trans h.tasks, h'.front.trans h.front, h.calls.trans h'.calls⟩

/-! ### Runs -/

/-- A run that goes on ends and tells whoever listens, or waits for a build command. -/
inductive RunsOn (s t : Session) : Prop where
  /-- It ends. -/
  | ends {outcome : Except Fault Unit} (kept : Kept s t) (signal : t.signal = s.signal)
    (building : t.scheduler.building = false) (run : t.scheduler.run = .ended outcome)
    (listeners : t.scheduler.listeners = []) (running : t.running = s.running)
    (ready : t.ready = s.ready ++ s.scheduler.listeners.map fun who => .runEnded who outcome)
  /-- It waits. -/
  | command {build : RunningBuild} (kept : Kept s t) (signal : t.signal = s.signal)
    (building : t.scheduler.building = s.scheduler.building)
    (run : t.scheduler.run = s.scheduler.run)
    (listeners : t.scheduler.listeners = s.scheduler.listeners) (owner : build.owner = .run)
    (running : t.running = s.running ++ [build]) (ready : t.ready = s.ready)

/-- A run may have gone on in another workspace before. -/
theorem RunsOn.via {w : Workspace} {scheduler : Scheduler Listener}
    (h : RunsOn { s with workspace := w, scheduler } t) (hcalls : SameCalls s.workspace w)
    (hbuilding : scheduler.building = s.scheduler.building) (hrun : scheduler.run = s.scheduler.run)
    (hlisteners : scheduler.listeners = s.scheduler.listeners) : RunsOn s t := by
  have hfirst : Kept s { s with workspace := w, scheduler } := ⟨rfl, rfl, hcalls⟩
  cases h with
  | ends kept signal building run listeners running ready =>
    rw [show ({ s with workspace := w, scheduler } : Session).scheduler.listeners = _ from
      hlisteners] at ready
    exact .ends (hfirst.trans kept) signal building run listeners running ready
  | command kept signal building run listeners owner running ready =>
    exact .command (hfirst.trans kept) signal (building.trans hbuilding) (run.trans hrun)
      (listeners.trans hlisteners) owner running ready

theorem RunsOn.kept (h : RunsOn s t) : Kept s t := by
  cases h with
  | ends kept => exact kept
  | command kept => exact kept

theorem RunsOn.signal (h : RunsOn s t) : t.signal = s.signal := by
  cases h with
  | ends _ signal => exact signal
  | command _ signal => exact signal

theorem runsOn_goOn_of_over {outcome : Except Fault Unit}
    (hend : s.scheduler.endCycle outcome =
      (.over s.scheduler.listeners, [], (s.scheduler.finish outcome).2)) :
    RunsOn s (s.goOn outcome) := by
  rw [goOn_of_over hend]
  exact .ends ⟨rfl, rfl, .refl _⟩ rfl rfl rfl rfl rfl rfl

theorem runsOn_afterLaunch (s : Session)
    (hgo : ∀ t outcome, t.scheduler = s.scheduler → RunsOn t (t.goOn outcome)) :
    RunsOn s (afterLaunch (launch .run s)) := by
  have hcalls := Workspace.ignores_sameCalls.relates_beginCycle s.workspace
  rcases hb : Workspace.beginCycle.on s.workspace with ⟨f | ⟨c, status⟩, w⟩
  all_goals
    rw [hb] at hcalls
    change SameCalls s.workspace w at hcalls
  · rw [launch_of_error hb]
    exact (hgo { s with workspace := w } (.error f) rfl).via hcalls rfl rfl rfl
  cases status with
  | none =>
    rw [launch_of_running hb]
    exact .command ⟨rfl, rfl, hcalls⟩ rfl rfl rfl rfl rfl rfl rfl
  | some status =>
    rw [launch_of_ended hb]
    have hended := hcalls.trans (Workspace.ignores_sameCalls.relates_endCycle c status w)
    exact (hgo { s with workspace := ((Workspace.endCycle c status).on w).2 } _ rfl).via hended rfl
      rfl rfl

/-- Behind a cycle one more follows at most, for which nobody else has to ask. -/
theorem runsOn_goOn (outcome : Except Fault Unit) (s : Session) : RunsOn s (s.goOn outcome) := by
  cases hqueued : s.scheduler.queued with
  | false => exact runsOn_goOn_of_over (endCycle_of_not_queued hqueued outcome)
  | true =>
    cases outcome with
    | error f => exact runsOn_goOn_of_over rfl
    | ok _ =>
      -- Asking again is forgotten as the second cycle begins, so that one is the last.
      rw [Watched.goOn_of_queued hqueued]
      have hnoted := s.desk.calls_noteAll [⟨.info, "scheduler", "Running coalesced rebuild"⟩]
      refine (runsOn_afterLaunch _ fun t outcome hscheduler => ?_).via hnoted rfl rfl rfl
      have hlast : t.scheduler.queued = false := congrArg Scheduler.queued hscheduler
      exact runsOn_goOn_of_over (endCycle_of_not_queued hlast outcome)

theorem runsOn_beginRun (s : Session) : RunsOn s s.beginRun :=
  (runsOn_afterLaunch { s with scheduler := s.scheduler.beginCycle } fun t outcome _ =>
    runsOn_goOn outcome t).via (SameCalls.refl _) rfl rfl rfl

theorem runsOn_buildEnded {build : RunningBuild} (howner : build.owner = .run) (status : Int)
    (s : Session) : RunsOn s (s.buildEnded build status) := by
  have hcalls := Workspace.ignores_sameCalls.relates_endCycle build.cycle status s.workspace
  unfold buildEnded
  rw [howner]
  exact (runsOn_goOn _ (s.endCycle build.cycle status).2).via hcalls rfl rfl rfl

/-! ### Verdicts -/

/-- How watching ended, if it has. -/
def verdict (s : Session) : Option (Except Fault Unit) := s.signal.bind Signal.outcome

/-- Whether a job is a step of a task that nothing but the task brings about. -/
def Job.isTurn : Job → Bool
  | .beginTask _ | .stopped _ _ => true
  | _ => false

/-- What is ready once watching has ended. -/
def Signal.turns (signal : Signal) : List Job :=
  match signal.outcome, signal.waiter with
  | some outcome, some number => [.stopped number outcome]
  | _, _ => []

end Session

namespace Course

variable {c : Course} {s t : Session}

/-- What is to go on of a run of the scheduler. -/
def work (c : Course) : List Job := c.jobs.filter Job.isWork

/-- What is to go on of the task. -/
def turns (c : Course) : List Job := c.jobs.filter Job.isTurn

/-- A run of the scheduler goes on, and nothing is to go on of it for now. -/
structure Engaged (c : Course) : Prop where
  /-- The scheduler builds. -/
  building : c.session.scheduler.building = true
  /-- The run has not ended. -/
  run : c.session.scheduler.run = .pending
  /-- Nothing is to go on of it. -/
  work : c.work = []
  /-- No command runs. -/
  running : c.session.running = []

/-- How far the builds have come, with what is to go on of a run and the commands that run. -/
inductive Phase (scheduler : Scheduler Listener) (work : List Job) (running : List RunningBuild) :
    Prop where
  /-- No run goes on. -/
  | rest (building : scheduler.building = false) (run : scheduler.run ≠ .pending) (work : work = [])
    (running : running = [])
  /-- A run is about to begin. -/
  | start (building : scheduler.building = true) (run : scheduler.run = .pending)
    (work : work = [.beginRun]) (running : running = [])
  /-- A build command of the run runs, or its end has not been noticed yet. -/
  | command {build : RunningBuild} (building : scheduler.building = true)
    (run : scheduler.run = .pending) (owner : build.owner = .run)
    (command : work = [] ∧ running = [build] ∨
      (∃ status, work = [.buildEnded build status]) ∧ running = [])

/-- No failure is forgotten, and no fault is made up. -/
structure Told (c : Course) : Prop where
  /-- The session is told how a run ends. -/
  told : c.session.scheduler.run = .pending → .session ∈ c.session.scheduler.listeners
  /-- The end of a run is on record. -/
  recorded : ∀ outcome, c.session.scheduler.run = .ended outcome → (.build, outcome) ∈ c.chronicle
  /-- So is all that is told of the ends of runs. -/
  news : ∀ who outcome, .runEnded who outcome ∈ c.jobs → (.build, outcome) ∈ c.chronicle
  /-- A run that fails ends the watching, once the session is told. -/
  heard : ∀ f, (.build, .error f) ∈ c.chronicle →
    c.session.verdict.isSome ∨ .runEnded .session (.error f) ∈ c.jobs
  /-- An event that fails ends the watching. -/
  handled : ∀ f, (.handler, .error f) ∈ c.chronicle → ∃ g, c.session.verdict = some (.error g)
  /-- A fault that ends the watching comes from something that has failed. -/
  blamed : ∀ f, c.session.verdict = some (.error f) → ∃ part, (part, .error f) ∈ c.chronicle
  /-- Watching that has ended well was stopped. -/
  stopped : c.session.verdict = some (.ok ()) → c.session.front = none

/-- A session whose failures are told and whose builds are in some phase. -/
structure Sound (c : Course) : Prop extends Told c where
  /-- The phase. -/
  phase : Phase c.session.scheduler c.work c.session.running

/-- More may become ready. -/
theorem jobs_of_ready {c' : Course} {more : List Job} (hagenda : c'.agenda = c.agenda)
    (hready : c'.session.ready = c.session.ready ++ more) : c'.jobs = c.jobs ++ more := by
  rw [jobs, hagenda, hready, ← List.append_assoc]
  rfl

theorem filter_of_ready {c' : Course} {more : List Job} (p : Job → Bool)
    (hagenda : c'.agenda = c.agenda) (hready : c'.session.ready = c.session.ready ++ more) :
    c'.jobs.filter p = c.jobs.filter p ++ more.filter p := by
  rw [jobs_of_ready hagenda hready, List.filter_append]

/-! ### Taking something up -/

/-- Something is taken from the agenda. -/
def Takes (c : Course) (job : Job) (c₀ : Course) : Prop :=
  ∃ before after, c.agenda = before ++ job :: after ∧ c₀ = { c with agenda := before ++ after }

section
variable {c₀ : Course} {job : Job}

theorem Takes.exists_jobs (h : c.Takes job c₀) :
    ∃ before after, c.jobs = before ++ job :: after ∧ c₀.jobs = before ++ after := by
  obtain ⟨before, after, hagenda, rfl⟩ := h
  refine ⟨before, after ++ c.session.ready, ?_, List.append_assoc _ _ _⟩
  rw [jobs, hagenda, List.append_assoc, List.cons_append]

theorem Takes.mem_jobs (h : c.Takes job c₀) {other : Job} :
    other ∈ c.jobs ↔ other = job ∨ other ∈ c₀.jobs := by
  obtain ⟨before, after, hjobs, hrest⟩ := h.exists_jobs
  rw [hjobs, hrest]
  simp only [List.mem_append, List.mem_cons]
  constructor
  · rintro (hbefore | rfl | hafter)
    · exact .inr (.inl hbefore)
    · exact .inl rfl
    · exact .inr (.inr hafter)
  · rintro (rfl | hbefore | hafter)
    · exact .inr (.inl rfl)
    · exact .inl hbefore
    · exact .inr (.inr hafter)

theorem Takes.filter_of_false (h : c.Takes job c₀) {p : Job → Bool} (hp : p job = false) :
    c₀.jobs.filter p = c.jobs.filter p := by
  obtain ⟨before, after, hjobs, hrest⟩ := h.exists_jobs
  rw [hjobs, hrest, List.filter_append, List.filter_append, List.filter_cons, hp]
  rfl

/-- The only one of its kind is taken. -/
theorem Takes.filter_of_true (h : c.Takes job c₀) {p : Job → Bool} (hp : p job = true)
    {only : Job} (honly : c.jobs.filter p = [only]) : job = only ∧ c₀.jobs.filter p = [] := by
  obtain ⟨before, after, hjobs, hrest⟩ := h.exists_jobs
  rw [hjobs, List.filter_append, List.filter_cons, if_pos hp] at honly
  rw [hrest, List.filter_append]
  rcases hb : before.filter p with _ | ⟨first, rest⟩
  · rw [hb] at honly
    obtain ⟨rfl, hafter⟩ := List.cons.inj honly
    exact ⟨rfl, hafter⟩
  · rw [hb] at honly
    exact absurd (List.cons.inj honly).2 (by simp)

end

/-- Those who are told of the end of a run have nothing else to go on with. -/
theorem filter_told {p : Job → Bool} (hp : ∀ who outcome, p (.runEnded who outcome) = false)
    (listeners : List Listener) (outcome : Except Fault Unit) :
    (listeners.map fun who => Job.runEnded who outcome).filter p = [] := by
  rw [List.filter_eq_nil_iff]
  intro job hjob
  obtain ⟨who, -, rfl⟩ := List.mem_map.1 hjob
  rw [hp]
  exact Bool.false_ne_true

/-! ### Small changes -/

theorem Told.append (h : c.Told) {more : Chronicle} (hbuild : ∀ f, (.build, .error f) ∉ more)
    (hhandler : ∀ f, (.handler, .error f) ∈ more → ∃ g, c.session.verdict = some (.error g)) :
    Told { c with chronicle := c.chronicle ++ more } := by
  refine ⟨h.told, fun outcome hrun => ?_, fun who outcome hjob => ?_, fun f hf => ?_, fun f hf => ?_,
    fun f hf => ?_, h.stopped⟩
  · exact List.mem_append_left _ (h.recorded outcome hrun)
  · exact List.mem_append_left _ (h.news who outcome hjob)
  · exact h.heard f ((List.mem_append.1 hf).resolve_right (hbuild f))
  · exact (List.mem_append.1 hf).elim (h.handled f) (hhandler f)
  · obtain ⟨part, hpart⟩ := h.blamed f hf
    exact ⟨part, List.mem_append_left _ hpart⟩

theorem Told.drop (h : c.Told) {c₀ : Course} {job : Job} (htakes : c.Takes job c₀)
    (hheard : ∀ f, job = .runEnded .session (.error f) → c.session.verdict.isSome) : c₀.Told := by
  have hmem (other : Job) : other ∈ c.jobs ↔ other = job ∨ other ∈ c₀.jobs := htakes.mem_jobs
  obtain ⟨before, after, -, rfl⟩ := htakes
  refine ⟨h.told, h.recorded, fun who outcome hjob => h.news who outcome ((hmem _).2 (.inr hjob)),
    fun f hf => ?_, h.handled, h.blamed, h.stopped⟩
  rcases h.heard f hf with hverdict | hjob
  · exact .inl hverdict
  · rcases (hmem _).1 hjob with hself | hrest
    · exact .inl (hheard f hself.symm)
    · exact .inr hrest

/-- A run that ends is on record, and the session is told of it. -/
theorem Told.over (h : c.Told) (hengaged : c.Engaged) {outcome : Except Fault Unit}
    (hfront : t.front = c.session.front) (hsignal : t.signal = c.session.signal)
    (hrun : t.scheduler.run = .ended outcome)
    (hready : t.ready =
      c.session.ready ++ c.session.scheduler.listeners.map fun who => .runEnded who outcome) :
    Told { c with chronicle := c.chronicle ++ [(.build, outcome)], session := t } := by
  have hjobs : Course.jobs { c with chronicle := c.chronicle ++ [(.build, outcome)], session := t } =
      c.jobs ++ c.session.scheduler.listeners.map fun who => .runEnded who outcome :=
    jobs_of_ready rfl hready
  have hverdict : t.verdict = c.session.verdict := congrArg (Option.bind · Signal.outcome) hsignal
  refine ⟨fun hpending => ?_, fun outcome' hended => ?_, fun who outcome' hjob => ?_, fun f hf => ?_,
    fun f hf => ?_, fun f hf => ?_, fun hstopped => ?_⟩
  · rw [hrun] at hpending
    cases hpending
  · rw [hrun] at hended
    cases hended
    exact List.mem_append_right _ (List.mem_singleton_self _)
  · rw [hjobs] at hjob
    rcases List.mem_append.1 hjob with hjob | hjob
    · exact List.mem_append_left _ (h.news who outcome' hjob)
    · -- Every listener is told of the run that has just been put on record.
      obtain ⟨who', -, heq⟩ := List.mem_map.1 hjob
      cases heq
      exact List.mem_append_right _ (List.mem_singleton_self _)
  · rw [hjobs, hverdict]
    rcases List.mem_append.1 hf with hf | hf
    · exact (h.heard f hf).imp_right (List.mem_append_left _)
    · cases List.mem_singleton.1 hf
      -- While a run goes on the session is among its listeners, so a failure is on its way to it.
      refine .inr (List.mem_append_right _ ?_)
      exact List.mem_map.2 ⟨.session, h.told hengaged.run, rfl⟩
  · rw [hverdict]
    rcases List.mem_append.1 hf with hf | hf
    · exact h.handled f hf
    · cases List.mem_singleton.1 hf
  · rw [hverdict] at hf
    obtain ⟨part, hpart⟩ := h.blamed f hf
    exact ⟨part, List.mem_append_left _ hpart⟩
  · rw [hverdict] at hstopped
    rw [hfront]
    exact h.stopped hstopped

/-- A run that waits for its command has nothing new to tell. -/
theorem Told.command (h : c.Told) (hengaged : c.Engaged) (hfront : t.front = c.session.front)
    (hsignal : t.signal = c.session.signal) (hrun : t.scheduler.run = c.session.scheduler.run)
    (hlisteners : t.scheduler.listeners = c.session.scheduler.listeners)
    (hready : t.ready = c.session.ready) : Told { c with session := t } := by
  have hjobs : Course.jobs { c with session := t } = c.jobs := congrArg (c.agenda ++ ·) hready
  have hverdict : t.verdict = c.session.verdict := congrArg (Option.bind · Signal.outcome) hsignal
  refine ⟨fun _ => ?_, fun outcome hended => ?_, ?_, ?_, ?_, ?_, ?_⟩
  · rw [hlisteners]
    exact h.told hengaged.run
  · rw [hrun, hengaged.run] at hended
    cases hended
  · rw [hjobs]
    exact h.news
  · rw [hjobs, hverdict]
    exact h.heard
  · rw [hverdict]
    exact h.handled
  · rw [hverdict]
    exact h.blamed
  · rw [hverdict, hfront]
    exact h.stopped

/-- **A run that goes on stays told of, however it goes on.** -/
theorem Told.runsOn (h : c.Told) (hengaged : c.Engaged) (hruns : RunsOn c.session t) :
    Sound { c with chronicle := c.chronicle ++ t.lastRun, session := t } := by
  cases hruns with
  | @ends outcome kept signal building run listeners running ready =>
    have hlast : t.lastRun = [(.build, outcome)] := by rw [lastRun, run]
    rw [hlast]
    refine ⟨h.over hengaged kept.front signal run ready, .rest building (fun hpending => ?_) ?_
      (running.trans hengaged.running)⟩
    · rw [run] at hpending
      cases hpending
    · refine Eq.trans (filter_of_ready (c := c) Job.isWork rfl ready) ?_
      rw [show c.jobs.filter Job.isWork = [] from hengaged.work, List.nil_append]
      exact filter_told (fun _ _ => rfl) _ _
  | @command build kept signal building run listeners owner running ready =>
    have hpending := run.trans hengaged.run
    have hlast : t.lastRun = [] := by rw [lastRun, hpending]
    rw [hlast, List.append_nil]
    refine ⟨h.command hengaged kept.front signal run listeners ready,
      .command (building.trans hengaged.building) hpending owner (.inl ⟨?_, ?_⟩)⟩
    · exact (congrArg (List.filter Job.isWork) (congrArg (c.agenda ++ ·) ready)).trans hengaged.work
    · rw [running, hengaged.running]
      rfl

end Course

end ProbeKit
