import ProbeKit.Proofs.Session.Alike

/-!
# The stages of watching

At every moment of its course a session that is asked to watch has not begun yet, watches, waits for
the end of a run behind a stop, or has ended (`Course.Stands`).  Runs, notices, timers and the news
of runs lead from one of these stages to another.
-/

namespace ProbeKit

open Act Session
open Workspace (SameCalls)

namespace Course

variable {c c' c₀ : Course} {job : Job} {waiter : Option Nat} {before : List ObserverCall}

/-! ### How a course stands -/

/-- Watching is over. -/
structure Over (before : List ObserverCall) (c : Course) : Prop extends Sound c where
  /-- The task has nothing to go on with. -/
  turns : c.turns = []
  /-- Watching has ended. -/
  verdict : c.session.verdict.isSome
  /-- There is no front end. -/
  front : c.session.front = none
  /-- The observer was stopped if it was started. -/
  observed : Observed before none c.session.desk.calls

theorem Over.verdict_ne_none (h : Over before c) : c.session.verdict ≠ none := by
  intro hnone
  have hsome := h.verdict
  rw [hnone] at hsome
  cases hsome

theorem Over.alike (h : Over before c) (halike : Alike c c') : Over before c' := by
  refine ⟨h.toSound.alike halike, halike.turns.trans h.turns, ?_, halike.front.trans h.front, ?_⟩
  · rw [halike.verdict]
    exact h.verdict
  · rw [halike.calls]
    exact h.observed

/-- How the course of a session stands that is asked to watch. -/
inductive Stands (before : List ObserverCall) (early : List Notice) (c : Course) : Prop where
  /-- The task has not begun. -/
  | fresh (untouched : c.Untouched) (turns : c.turns = [.beginTask 0])
    (tasks : c.session.tasks = [⟨.watch early, .fresh⟩]) (front : c.session.front = none)
    (signal : c.session.signal = none) (calls : c.session.desk.calls = before)
  /-- The session watches, or the task has yet to learn that watching has ended. -/
  | watching (opened : Open (some 0) c) (tasks : c.session.tasks = [⟨.watch early, .watching⟩])
    (started : Started c.chronicle)
    (observed : Observed before c.session.front c.session.desk.calls)
    (stopped : c.session.front = none → c.session.verdict.isSome)
  /-- The session was stopped, and the task waits for the end of a run. -/
  | closing (gone : Over before c) (tasks : c.session.tasks = [⟨.watch early, .closing⟩])
    (started : Started c.chronicle) (verdict : c.session.verdict = some (.ok ()))
    (waits : c.session.scheduler.run = .pending ∧ .task 0 ∈ c.session.scheduler.listeners ∨
      ∃ outcome, .runEnded (.task 0) outcome ∈ c.jobs)
    (told : ∀ outcome, .runEnded (.task 0) outcome ∈ c.jobs →
      c.session.scheduler.run = .ended outcome)
  /-- The task has ended well. -/
  | done (gone : Over before c) (tasks : c.session.tasks = [⟨.watch early, .ended (.ok none)⟩])
    (started : Started c.chronicle) (verdict : c.session.verdict = some (.ok ()))
    (run : c.session.scheduler.run = .none ∨ c.session.scheduler.run = .ended (.ok ()))
  /-- The task has ended with a fault. -/
  | failed {f : Fault} (gone : Over before c)
    (tasks : c.session.tasks = [⟨.watch early, .ended (.error f)⟩])
    (blamed : ∃ part, (part, .error f) ∈ c.chronicle)

variable {early : List Notice}

theorem Stands.alike (h : Stands before early c) (halike : Alike c c') :
    Stands before early c' := by
  cases h with
  | fresh untouched turns tasks front signal calls =>
    exact .fresh (untouched.alike halike) (halike.turns.trans turns) (halike.tasks.trans tasks)
      (halike.front.trans front) (halike.signal.trans signal) (halike.calls.trans calls)
  | watching opened tasks started observed stopped =>
    refine .watching (opened.alike halike) (halike.tasks.trans tasks) ?_ ?_ ?_
    · rw [halike.chronicle]
      exact started
    · rw [halike.front, halike.calls]
      exact observed
    · rw [halike.front, halike.verdict]
      exact stopped
  | closing gone tasks started verdict waits told =>
    refine .closing (gone.alike halike) (halike.tasks.trans tasks) ?_
      (halike.verdict.trans verdict) ?_ fun outcome hjob => ?_
    · rw [halike.chronicle]
      exact started
    · -- The job that tells the task is still there, since no task has ended between the two.
      rw [halike.scheduler]
      refine waits.imp_right fun ⟨outcome, hjob⟩ => ?_
      rcases halike.waits outcome hjob with ⟨result, hended⟩ | hjob
      · rw [tasks] at hended
        cases hended
      · exact ⟨outcome, hjob⟩
    · rw [halike.scheduler]
      exact told outcome (halike.news _ _ hjob)
  | done gone tasks started verdict run =>
    refine .done (gone.alike halike) (halike.tasks.trans tasks) ?_ (halike.verdict.trans verdict) ?_
    · rw [halike.chronicle]
      exact started
    · rw [halike.scheduler]
      exact run
  | failed gone tasks blamed =>
    refine .failed (gone.alike halike) (halike.tasks.trans tasks) ?_
    rw [halike.chronicle]
    exact blamed

/-- A course stands sound. -/
theorem Stands.sound (h : Stands before early c) : c.Sound := by
  cases h with
  | fresh untouched turns tasks front signal calls =>
    refine untouched.sound ?_
    rw [Session.verdict, signal]
    rfl
  | watching opened => exact opened.toSound
  | closing gone => exact gone.toSound
  | done gone => exact gone.toSound
  | failed gone => exact gone.toSound

/-! ### Runs -/

/-- **What is to go on of a run belongs to the run that goes on.** -/
theorem Takes.engaged (h : c.Takes job c₀) (hsound : c.Sound) (hwork : job.isWork = true) :
    c₀.Engaged ∧ RunsOn c₀.session (c₀.session.perform job) ∧
      c₀.session.recorded job = (c₀.session.perform job).lastRun := by
  have honly {only : Job} (hjobs : c.jobs.filter Job.isWork = [only]) :
      job = only ∧ c₀.jobs.filter Job.isWork = [] := h.filter_of_true hwork hjobs
  have hmem : job ∈ c.work := List.mem_filter.2 ⟨h.mem_jobs.2 (.inl rfl), hwork⟩
  obtain ⟨before, after, -, rfl⟩ := h
  cases hsound.phase with
  | rest _ _ work =>
    rw [work] at hmem
    cases hmem
  | start building run work running =>
    obtain ⟨rfl, hnone⟩ := honly work
    exact ⟨⟨building, run, hnone, running⟩, runsOn_beginRun _, rfl⟩
  | @command build building run owner command =>
    rcases command with ⟨hnone, -⟩ | ⟨⟨status, hended⟩, running⟩
    · rw [hnone] at hmem
      cases hmem
    · obtain ⟨rfl, hnone⟩ := honly hended
      exact ⟨⟨building, run, hnone, running⟩, runsOn_buildEnded owner status _, rfl⟩

/-- A run that goes on leaves watching as it is, but for those who listen to it. -/
structure Carries (c c' : Course) : Prop where
  /-- Only the run is on record. -/
  chronicle : ∃ more, c'.chronicle = c.chronicle ++ more ∧ ∀ entry ∈ more, entry.1 = .build
  /-- The task, the front end and the observer stay. -/
  kept : Kept c.session c'.session
  /-- So does the end of the watching. -/
  signal : c'.session.signal = c.session.signal
  /-- The task has the same to go on with. -/
  turns : c'.turns = c.turns
  /-- Nobody begins to listen. -/
  listeners : ∀ who ∈ c'.session.scheduler.listeners, who ∈ c.session.scheduler.listeners
  /-- The run goes on, or it has ended and who listened is told. -/
  outcome : c'.session.scheduler.run = c.session.scheduler.run ∧
      c'.session.scheduler.listeners = c.session.scheduler.listeners ∧
      (∀ who outcome, .runEnded who outcome ∈ c'.jobs → .runEnded who outcome ∈ c.jobs) ∨
    ∃ result, c'.session.scheduler.run = .ended result ∧
      (∀ who ∈ c.session.scheduler.listeners, .runEnded who result ∈ c'.jobs) ∧
      ∀ who outcome, .runEnded who outcome ∈ c'.jobs →
        .runEnded who outcome ∈ c.jobs ∨ who ∈ c.session.scheduler.listeners ∧ outcome = result

theorem carries_of_runsOn {t : Session} (htakes : c.Takes job c₀) (hwork : job.isWork = true)
    (h : RunsOn c₀.session t) :
    Carries c { c₀ with chronicle := c₀.chronicle ++ t.lastRun, session := t } := by
  have hmem (other : Job) : other ∈ c.jobs ↔ other = job ∨ other ∈ c₀.jobs := htakes.mem_jobs
  have hturns : c₀.turns = c.turns := htakes.filter_of_false (by cases job <;> trivial)
  -- All that goes on record is the outcome of the run.
  have hlast : ∀ entry ∈ t.lastRun, entry.1 = .build := by
    intro entry hentry
    unfold lastRun at hentry
    split at hentry
    · rw [List.mem_singleton.1 hentry]
    · cases hentry
  obtain ⟨before, after, -, rfl⟩ := htakes
  have hkept := h.kept
  have hsignal := h.signal
  -- The run ends, and all who listen are told; or it goes on with one more command.
  cases h with
  | @ends result kept signal building run listeners running ready =>
    have hjobs : Course.jobs
        { c with
          agenda := before ++ after
          chronicle := c.chronicle ++ t.lastRun
          session := t } =
        { c with agenda := before ++ after }.jobs ++
          c.session.scheduler.listeners.map fun who => .runEnded who result :=
      jobs_of_ready rfl ready
    refine ⟨⟨t.lastRun, rfl, hlast⟩, hkept, hsignal, ?_, fun who hwho => ?_,
      .inr ⟨result, run, fun who hwho => ?_, fun who outcome hjob => ?_⟩⟩
    · rw [turns, hjobs, List.filter_append, filter_told fun _ _ => rfl, List.append_nil]
      exact hturns
    · rw [listeners] at hwho
      cases hwho
    · rw [hjobs]
      exact List.mem_append_right _ (List.mem_map.2 ⟨who, hwho, rfl⟩)
    · rw [hjobs] at hjob
      rcases List.mem_append.1 hjob with hjob | hjob
      · exact .inl ((hmem _).2 (.inr hjob))
      · obtain ⟨who', hwho, heq⟩ := List.mem_map.1 hjob
        cases heq
        exact .inr ⟨hwho, rfl⟩
  | command kept signal building run listeners owner running ready =>
    have hjobs : Course.jobs
        { c with
          agenda := before ++ after
          chronicle := c.chronicle ++ t.lastRun
          session := t } =
        { c with agenda := before ++ after }.jobs := congrArg (before ++ after ++ ·) ready
    refine ⟨⟨t.lastRun, rfl, hlast⟩, hkept, hsignal, ?_, fun who hwho => ?_,
      .inl ⟨run, listeners, fun who outcome hjob => ?_⟩⟩
    · rw [turns, hjobs]
      exact hturns
    · rw [listeners] at hwho
      exact hwho
    · rw [hjobs] at hjob
      exact (hmem _).2 (.inr hjob)

/-- **What is to go on of a run belongs to the run that goes on**, and changes nothing else. -/
theorem Takes.carries (h : c.Takes job c₀) (hsound : c.Sound) (hwork : job.isWork = true) :
    c.session.scheduler.run = .pending ∧ Carries c (c₀.carryOn job) ∧ (c₀.carryOn job).Sound := by
  obtain ⟨hengaged, hruns, hrecorded⟩ := h.engaged hsound hwork
  have hcarries := carries_of_runsOn h hwork hruns
  have htold : c₀.Told := hsound.toTold.drop h fun f hjob => by
    rw [hjob] at hwork
    cases hwork
  have hsound' := htold.runsOn hengaged hruns
  rw [← hrecorded] at hcarries hsound'
  obtain ⟨before, after, -, rfl⟩ := h
  exact ⟨hengaged.run, hcarries, hsound'⟩

theorem Carries.started (h : Carries c c') (hstarted : Started c.chronicle) :
    Started c'.chronicle := by
  obtain ⟨more, hpast, hmore⟩ := h.chronicle
  rw [hpast]
  exact hstarted.append fun entry hentry => .inr (hmore entry hentry)

theorem Carries.mem_chronicle (h : Carries c c') {entry : Part × Except Fault Unit}
    (hentry : entry ∈ c.chronicle) : entry ∈ c'.chronicle := by
  obtain ⟨more, hpast, -⟩ := h.chronicle
  rw [hpast]
  exact List.mem_append_left _ hentry

theorem Carries.verdict (h : Carries c c') : c'.session.verdict = c.session.verdict :=
  congrArg (Option.bind · Signal.outcome) h.signal

theorem Open.carries (h : Open waiter c) (hcarries : Carries c c') (hsound : c'.Sound) :
    Open waiter c' := by
  refine ⟨hsound, ?_, fun number hlistens => ?_, fun number outcome hjob => ?_⟩
  · rw [hcarries.signal, hcarries.turns]
    exact h.signal
  · exact h.listeners number (hcarries.listeners _ hlistens)
  · rcases hcarries.outcome with ⟨-, -, hjobs⟩ | ⟨result, -, -, hjobs⟩
    · exact h.untold number outcome (hjobs _ _ hjob)
    · rcases hjobs _ _ hjob with hjob | ⟨hlistens, -⟩
      · exact h.untold number outcome hjob
      · exact h.listeners number hlistens

theorem Over.carries (h : Over before c) (hcarries : Carries c c') (hsound : c'.Sound) :
    Over before c' := by
  refine ⟨hsound, hcarries.turns.trans h.turns, ?_, hcarries.kept.front.trans h.front, ?_⟩
  · rw [hcarries.verdict]
    exact h.verdict
  · rw [show c'.session.desk.calls = c.session.desk.calls from hcarries.kept.calls]
    exact h.observed

/-- **A run goes on in whatever stage the task is.** -/
theorem Stands.run (h : Stands before early c) (htakes : c.Takes job c₀)
    (hwork : job.isWork = true) : Stands before early (c₀.carryOn job) := by
  obtain ⟨hpending, hcarries, hsound⟩ := htakes.carries h.sound hwork
  cases h with
  | fresh untouched =>
    -- Nobody has asked for a run yet.
    rw [untouched.scheduler] at hpending
    cases hpending
  | watching opened tasks started observed stopped =>
    refine .watching (opened.carries hcarries hsound) (hcarries.kept.tasks.trans tasks)
      (hcarries.started started) (observed.kept hcarries.kept) ?_
    rw [hcarries.kept.front, hcarries.verdict]
    exact stopped
  | closing gone tasks started verdict waits told =>
    -- A run that had ended would have told the task, so the task still waits for this one.
    have hlistens : .task 0 ∈ c.session.scheduler.listeners := by
      rcases waits with ⟨-, hlistens⟩ | ⟨outcome, hjob⟩
      · exact hlistens
      · rw [told outcome hjob] at hpending
        cases hpending
    have huntold (outcome : Except Fault Unit) : .runEnded (.task 0) outcome ∉ c.jobs := by
      intro hjob
      rw [told outcome hjob] at hpending
      cases hpending
    refine .closing (gone.carries hcarries hsound) (hcarries.kept.tasks.trans tasks)
      (hcarries.started started) (hcarries.verdict.trans verdict) ?_ fun outcome hjob => ?_
    · rcases hcarries.outcome with ⟨hrun, hlisteners, -⟩ | ⟨result, -, htold, -⟩
      · rw [hrun, hlisteners]
        exact .inl ⟨hpending, hlistens⟩
      · exact .inr ⟨result, htold _ hlistens⟩
    · rcases hcarries.outcome with ⟨-, -, hjobs⟩ | ⟨result, hrun, -, hjobs⟩
      · exact absurd (hjobs _ _ hjob) (huntold outcome)
      · rcases hjobs _ _ hjob with hold | ⟨-, rfl⟩
        · exact absurd hold (huntold outcome)
        · exact hrun
  | done gone tasks started verdict run =>
    rw [hpending] at run
    rcases run with hrun | hrun
    · cases hrun
    · cases hrun
  | failed gone tasks blamed =>
    obtain ⟨part, hpart⟩ := blamed
    exact .failed (gone.carries hcarries hsound) (hcarries.kept.tasks.trans tasks)
      ⟨part, hcarries.mem_chronicle hpart⟩

/-! ### Notices and timers -/

/-- Without a front end nobody hears of notices and timers. -/
theorem carryOn_of_front_eq_none (hfront : c.session.front = none)
    (houtside : job.isOutside = true) : c.carryOn job = c := by
  cases job with
  | notice front n =>
    have hdispatch : ((dispatch n).on c.session).2 = c.session := by
      unfold dispatch
      rw [on_get_bind, hfront]
      rfl
    have hperform : c.session.perform (.notice front n) = c.session := by
      unfold perform
      dsimp only
      rw [hdispatch]
      exact ite_self _
    have hrecorded : c.session.recorded (.notice front n) = [] := by
      unfold recorded noticed
      dsimp only
      rw [hfront]
      exact ite_self _
    rw [carryOn, hperform, hrecorded, List.append_nil]
  | timer front number =>
    have hfire : c.session.fire number = c.session := by
      unfold fire
      rw [hfront]
    have hperform : c.session.perform (.timer front number) = c.session := by
      unfold perform
      dsimp only
      rw [hfire]
      exact ite_self _
    have hrecorded : c.session.recorded (.timer front number) = [] := by
      unfold recorded timed
      dsimp only
      rw [hfront]
      exact ite_self _
    rw [carryOn, hperform, hrecorded, List.append_nil]
  | _ => cases houtside

/-- What comes from outside is some events to be handled, and leaves the observer alone. -/
theorem exists_events {front : FrontEnd} (hfront : c.session.front = some front)
    (houtside : job.isOutside = true) :
    ∃ front' desk events, front'.observing = front.observing ∧
      desk.calls = c.session.desk.calls ∧
      c.carryOn job =
        { c with
          chronicle := c.chronicle ++
            ({ c.session with front := some front' }.withDesk desk).handled events
          session := events.foldl onEvent
            ({ c.session with front := some front' }.withDesk desk) } := by
  have hsame : ({ c.session with front := some front } : Session).withDesk c.session.desk =
      c.session := by
    rw [← hfront]
    rfl
  -- A job of a front end that is no longer there is passed by, as if it brought no events.
  have hnothing : c = { c with
      chronicle := c.chronicle ++
        ({ c.session with front := some front }.withDesk c.session.desk).handled []
      session := [].foldl onEvent
        ({ c.session with front := some front }.withDesk c.session.desk) } := by
    rw [hsame, handled, List.append_nil, List.foldl_nil]
  cases job with
  | notice number n =>
    by_cases hnumber : c.session.frontNumber = number
    · refine ⟨(front.take c.session.sight n).1, c.session.desk, (front.take c.session.sight n).2.1,
        front.observing_take _ _, rfl, ?_⟩
      rw [carryOn, perform, recorded, if_pos hnumber, if_pos hnumber, noticed, hfront,
        Watched.dispatch_eq hfront]
      rfl
    · refine ⟨front, c.session.desk, [], rfl, rfl, Eq.trans ?_ hnothing⟩
      rw [carryOn, perform, recorded, if_neg hnumber, if_neg hnumber, List.append_nil]
  | timer number t =>
    by_cases hnumber : c.session.frontNumber = number
    · refine ⟨(front.fire c.session.sight t).1,
        c.session.desk.noteAll (front.fire c.session.sight t).2.2,
        (front.fire c.session.sight t).2.1, front.observing_fire _ _, Desk.calls_noteAll _ _, ?_⟩
      rw [carryOn, perform, recorded, if_pos hnumber, if_pos hnumber, timed, fire, hfront]
      rfl
    · refine ⟨front, c.session.desk, [], rfl, rfl, Eq.trans ?_ hnothing⟩
      rw [carryOn, perform, recorded, if_neg hnumber, if_neg hnumber, List.append_nil]
  | _ => cases houtside

/-- **What comes from outside is handled while the session watches, and passes by else.** -/
theorem Stands.hear (h : Stands before early c) (houtside : job.isOutside = true) :
    Stands before early (c.carryOn job) := by
  cases hfront : c.session.front with
  | none =>
    rw [carryOn_of_front_eq_none hfront houtside]
    exact h
  | some front =>
    have hsome : c.session.front ≠ none := by
      rw [hfront]
      exact Option.some_ne_none _
    -- Only a session that watches has a front end.
    cases h with
    | fresh _ _ _ hnone => exact absurd hnone hsome
    | closing gone => exact absurd gone.front hsome
    | done gone => exact absurd gone.front hsome
    | failed gone => exact absurd gone.front hsome
    | watching opened tasks started observed stopped =>
      obtain ⟨front', desk, events, hobserving, hcalls, heq⟩ := exists_events hfront houtside
      rw [heq]
      have hset := (opened.withFront hsome (some front')).withWorkspace
        { c.session.workspace with desk }
      obtain ⟨hopen, hkept⟩ := hset.onEvents (Option.some_ne_none _) events
      rw [hfront] at observed
      have hobserved : Observed before (some front') desk.calls := by
        rw [hcalls]
        exact observed.withFront hobserving
      refine .watching hopen (hkept.tasks.trans tasks) (started.append fun entry hentry => ?_)
        (Observed.kept (s := { c.session with front := some front' }.withDesk desk) hobserved hkept)
        fun hnone => ?_
      · exact .inl (part_of_mem_handled hentry)
      · exact absurd (hkept.front.symm.trans hnone) (Option.some_ne_none _)

/-! ### Ends of runs -/

/-- A run that has failed ends the watching, unless it has ended before. -/
theorem Stands.fail (h : Stands before early c) {f : Fault}
    (hf : (.build, .error f) ∈ c.chronicle) :
    Stands before early { c with session := c.session.fail f } := by
  cases hverdict : c.session.verdict with
  | some outcome =>
    rw [Session.fail, resolve_of_verdict hverdict]
    exact h
  | none =>
    cases h with
    | fresh untouched =>
      rw [untouched.chronicle] at hf
      cases hf
    | closing gone => exact absurd hverdict gone.verdict_ne_none
    | done gone => exact absurd hverdict gone.verdict_ne_none
    | failed gone => exact absurd hverdict gone.verdict_ne_none
    | watching opened tasks started observed stopped =>
      have hopen := opened.resolve_of_none hverdict (.error f) []
        (fun g hg => ?_) (fun g hg => ?_) fun hok => ?_
      · rw [List.append_nil] at hopen
        have hkept := kept_resolve c.session (.error f)
        refine .watching hopen (hkept.tasks.trans tasks) started (observed.kept hkept) fun hnone => ?_
        have hended := stopped (hkept.front.symm.trans hnone)
        rw [hverdict] at hended
        cases hended
      · cases hg
        exact ⟨.build, List.mem_append_left _ hf⟩
      · cases hg
      · cases hok

theorem tasks_endTask {s : Session} {stage : Stage} (htasks : s.tasks = [⟨.watch early, stage⟩])
    (stage' : Stage) : (s.setStage 0 stage').tasks = [⟨.watch early, stage'⟩] := by
  show s.tasks.modify 0 _ = _
  rw [htasks]
  rfl

theorem Over.withTasks (h : Over before c) (tasks : List Task) :
    Over before { c with session := { c.session with tasks } } :=
  ⟨⟨⟨h.told, h.recorded, h.news, h.heard, h.handled, h.blamed, h.stopped⟩, h.phase⟩, h.turns,
    h.verdict, h.front, h.observed⟩

/-- A task that has nothing more to wait for ends as the last run has. -/
theorem Over.ended (gone : Over before c) {stage : Stage}
    (htasks : c.session.tasks = [⟨.watch early, stage⟩]) (started : Started c.chronicle)
    (hverdict : c.session.verdict = some (.ok ())) {outcome : Except Fault Unit}
    (hrun : c.session.scheduler.run = .ended outcome) :
    Stands before early
      { c with session := c.session.endTask 0 (withoutResult outcome) } := by
  have hover := gone.withTasks (c.session.endTask 0 (withoutResult outcome)).tasks
  have htasks' := tasks_endTask htasks (.ended (withoutResult outcome))
  cases outcome with
  | ok _ => exact .done hover htasks' started hverdict (.inr hrun)
  | error f => exact .failed hover htasks' ⟨.build, gone.recorded _ hrun⟩

/-- What puts nothing on record may go on before it is taken from the agenda. -/
theorem Takes.performed (h : c.Takes job c₀) (hnothing : c.session.recorded job = []) :
    Takes { c with session := c.session.perform job } job (c₀.carryOn job) := by
  obtain ⟨before, after, hagenda, rfl⟩ := h
  refine ⟨before, after, hagenda, ?_⟩
  rw [carryOn, show ({ c with agenda := before ++ after } : Course).session.recorded job = [] from
    hnothing, List.append_nil]

/-- News of a run come only once watching has begun. -/
theorem Stands.signal (h : Stands before early c) {who : Listener} {outcome : Except Fault Unit}
    (hnews : .runEnded who outcome ∈ c.jobs) : c.session.signal ≠ none := by
  intro hnone
  have hverdict : c.session.verdict = none := by
    rw [verdict, hnone]
    rfl
  cases h with
  | fresh untouched => exact untouched.news _ _ hnews
  | watching opened => exact opened.signal_ne_none hnone
  | closing gone => exact gone.verdict_ne_none hverdict
  | done gone => exact gone.verdict_ne_none hverdict
  | failed gone => exact gone.verdict_ne_none hverdict

theorem tell_of_ended {s : Session} {result : Except Fault (Option OneBuild)}
    (htasks : s.tasks = [⟨.watch early, .ended result⟩]) (number : Nat)
    (outcome : Except Fault Unit) : s.tell (.task number) outcome = s := by
  unfold Session.tell
  rw [htasks]
  cases number with
  | zero => rfl
  | succ number => rfl

/-- What someone is told of the end of a run may be told before it is taken from the agenda. -/
theorem Takes.told {who : Listener} {outcome : Except Fault Unit}
    (h : c.Takes (.runEnded who outcome) c₀) :
    Takes { c with session := c.session.tell who outcome } (.runEnded who outcome)
      (c₀.carryOn (.runEnded who outcome)) :=
  h.performed rfl

/-- The session is told of the end of a run. -/
theorem Stands.tell_session (h : Stands before early c) {outcome : Except Fault Unit}
    (htakes : c.Takes (.runEnded .session outcome) c₀) :
    Stands before early (c₀.carryOn (.runEnded .session outcome)) := by
  have hmem : .runEnded .session outcome ∈ c.jobs := htakes.mem_jobs.2 (.inl rfl)
  cases outcome with
  | ok _ =>
    refine h.alike (htakes.told.alike_of_told (fun f _ hf => ?_) fun hwho => ?_)
    · cases hf
    · cases hwho
  | error f =>
    have hfailed := h.fail (h.sound.news .session _ hmem)
    have hsome := isSome_verdict_resolve (h.signal hmem) (.error f)
    refine hfailed.alike (htakes.told.alike_of_told (fun _ _ _ => hsome) fun hwho => ?_)
    cases hwho

/-- A task that has ended is told in vain. -/
theorem Stands.tell_ended (h : Stands before early c) {number : Nat} {outcome : Except Fault Unit}
    {result : Except Fault (Option OneBuild)}
    (htasks : c.session.tasks = [⟨.watch early, .ended result⟩])
    (htakes : c.Takes (.runEnded (.task number) outcome) c₀) :
    Stands before early (c₀.carryOn (.runEnded (.task number) outcome)) := by
  have htold := htakes.told
  rw [tell_of_ended htasks] at htold
  refine h.alike (htold.alike_of_told (fun _ hwho => ?_) fun _ => ⟨result, ?_⟩)
  · cases hwho
  · rw [htasks]
    rfl

/-- A task is told of the end of the run that it waits for, and no other task is. -/
theorem Stands.tell_task (h : Stands before early c) {number : Nat} {outcome : Except Fault Unit}
    (htakes : c.Takes (.runEnded (.task number) outcome) c₀) :
    Stands before early (c₀.carryOn (.runEnded (.task number) outcome)) := by
  have hmem : .runEnded (.task number) outcome ∈ c.jobs := htakes.mem_jobs.2 (.inl rfl)
  have htold := htakes.told
  -- Only a task that is closing waits for a run.
  cases h with
  | fresh untouched => exact absurd hmem (untouched.news _ _)
  | watching opened => exact absurd hmem (opened.untold _ _)
  | done gone tasks started verdict run =>
    exact (Stands.done gone tasks started verdict run).tell_ended tasks htakes
  | failed gone tasks blamed => exact (Stands.failed gone tasks blamed).tell_ended tasks htakes
  | closing gone tasks started verdict waits told =>
    cases number with
    | zero =>
      have hended : c.session.tell (.task 0) outcome =
          c.session.endTask 0 (withoutResult outcome) := by
        unfold Session.tell
        rw [tasks]
        rfl
      rw [hended] at htold
      refine (gone.ended tasks started verdict (told _ hmem)).alike
        (htold.alike_of_told (fun _ hwho => ?_) fun _ => ⟨withoutResult outcome, ?_⟩)
      · cases hwho
      · show (c.session.tasks.modify 0 _)[0]?.map Task.stage = _
        rw [tasks]
        rfl
    | succ number =>
      have hsame : c.session.tell (.task (number + 1)) outcome = c.session := by
        unfold Session.tell
        rw [tasks]
        rfl
      rw [hsame] at htold
      refine (Stands.closing gone tasks started verdict waits told).alike
        (htold.alike_of_told (fun _ hwho => ?_) fun hwho => ?_)
      · cases hwho
      · cases hwho

/-- **Whoever is told of the end of a run goes on as the end says.** -/
theorem Stands.tell (h : Stands before early c) {who : Listener} {outcome : Except Fault Unit}
    (htakes : c.Takes (.runEnded who outcome) c₀) :
    Stands before early (c₀.carryOn (.runEnded who outcome)) := by
  cases who with
  | session => exact h.tell_session htakes
  | task number => exact h.tell_task htakes

end Course

end ProbeKit
