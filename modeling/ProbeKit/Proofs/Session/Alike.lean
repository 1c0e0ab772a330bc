import ProbeKit.Proofs.Session.Starting

/-!
# Courses that are alike

Much of what happens to a session leaves its watching as it is: something is taken up, the world
changes, a report becomes a notice, a command ends.  All of these are of one kind (`Course.Alike`),
and so is that someone was told of the end of a run who had nothing to do about it.
-/

namespace ProbeKit

open Act Session
open Workspace (SameCalls)

namespace Course

variable {c c' c₀ : Course} {job : Job} {waiter : Option Nat}

/-- Nothing has changed that watching depends on, except that someone may have been told of the end
of a run. -/
structure Alike (c c' : Course) : Prop where
  /-- Nothing new is on record. -/
  chronicle : c'.chronicle = c.chronicle
  /-- The scheduler stays. -/
  scheduler : c'.session.scheduler = c.session.scheduler
  /-- So do the tasks. -/
  tasks : c'.session.tasks = c.session.tasks
  /-- So does the front end. -/
  front : c'.session.front = c.session.front
  /-- So does the end of the watching. -/
  signal : c'.session.signal = c.session.signal
  /-- The observer was not called. -/
  calls : c'.session.desk.calls = c.session.desk.calls
  /-- The task has the same to go on with. -/
  turns : c'.turns = c.turns
  /-- The builds are in some phase if they were. -/
  phase : Phase c.session.scheduler c.work c.session.running →
    Phase c'.session.scheduler c'.work c'.session.running
  /-- Builds that have not begun do not begin. -/
  rest : c.session.running = [] → c'.session.running = [] ∧ c'.work = c.work
  /-- There is no news of runs. -/
  news : ∀ who outcome, .runEnded who outcome ∈ c'.jobs → .runEnded who outcome ∈ c.jobs
  /-- A failure of a run is told if watching goes on. -/
  heard : ∀ f, .runEnded .session (.error f) ∈ c.jobs →
    c.session.verdict.isSome ∨ .runEnded .session (.error f) ∈ c'.jobs
  /-- So is the end of a run to a task that goes on. -/
  waits : ∀ outcome, .runEnded (.task 0) outcome ∈ c.jobs →
    (∃ result, c.session.tasks[0]?.map Task.stage = some (.ended result)) ∨
      .runEnded (.task 0) outcome ∈ c'.jobs

theorem Alike.verdict (h : Alike c c') : c'.session.verdict = c.session.verdict :=
  congrArg (Option.bind · Signal.outcome) h.signal

theorem Told.alike (h : c.Told) (halike : Alike c c') : c'.Told := by
  refine ⟨?_, ?_, fun who outcome hjob => ?_, fun f hf => ?_, ?_, ?_, ?_⟩
  · rw [halike.scheduler]
    exact h.told
  · rw [halike.scheduler, halike.chronicle]
    exact h.recorded
  · rw [halike.chronicle]
    exact h.news who outcome (halike.news who outcome hjob)
  · rw [halike.chronicle] at hf
    rw [halike.verdict]
    rcases h.heard f hf with hverdict | hjob
    · exact .inl hverdict
    · exact halike.heard f hjob
  · rw [halike.chronicle, halike.verdict]
    exact h.handled
  · rw [halike.chronicle, halike.verdict]
    exact h.blamed
  · rw [halike.verdict, halike.front]
    exact h.stopped

theorem Sound.alike (h : c.Sound) (halike : Alike c c') : c'.Sound :=
  ⟨h.toTold.alike halike, halike.phase h.phase⟩

theorem Open.alike (h : Open waiter c) (halike : Alike c c') : Open waiter c' := by
  refine ⟨h.toSound.alike halike, ?_, ?_, fun number outcome hjob => ?_⟩
  · rw [halike.signal, halike.turns]
    exact h.signal
  · rw [halike.scheduler]
    exact h.listeners
  · exact h.untold number outcome (halike.news _ _ hjob)

theorem Open.signal_ne_none (h : Open waiter c) : c.session.signal ≠ none := by
  obtain ⟨signal, hsignal, -⟩ := h.signal
  rw [hsignal]
  exact Option.some_ne_none _

theorem Untouched.alike (h : c.Untouched) (halike : Alike c c') : c'.Untouched := by
  obtain ⟨hrunning, hwork⟩ := halike.rest h.running
  exact ⟨halike.chronicle.trans h.chronicle, halike.scheduler.trans h.scheduler, hrunning,
    hwork.trans h.work, fun who outcome hjob => h.news who outcome (halike.news who outcome hjob)⟩

/-- Courses of sessions that differ in nothing but their workspaces, and in what comes from
outside. -/
theorem alike_of_filter (hchronicle : c'.chronicle = c.chronicle)
    (hsession : ∃ w ready, SameCalls c.session.workspace w ∧
      c'.session = { c.session with workspace := w, ready })
    (hjobs : c'.jobs.filter (!·.isOutside) = c.jobs.filter (!·.isOutside)) : Alike c c' := by
  -- What is asked about the jobs is asked of those from inside only, so the two filters can be
  -- swapped.
  have hfilter (p : Job → Bool) (hp : ∀ job, p job = true → job.isOutside = false) :
      c'.jobs.filter p = c.jobs.filter p := by
    have hboth (jobs : List Job) : (jobs.filter (!·.isOutside)).filter p = jobs.filter p := by
      rw [List.filter_filter]
      refine List.filter_congr fun job _ => ?_
      cases hpjob : p job with
      | false => rfl
      | true => rw [hp job hpjob]; rfl
    rw [← hboth, hjobs, hboth]
  have hmem {job : Job} (hinside : job.isOutside = false) : job ∈ c'.jobs ↔ job ∈ c.jobs := by
    have hboth (jobs : List Job) : job ∈ jobs.filter (!·.isOutside) ↔ job ∈ jobs := by
      rw [List.mem_filter, hinside]
      exact and_iff_left rfl
    rw [← hboth, hjobs, hboth]
  have hwork : c'.work = c.work := hfilter Job.isWork fun job hwork => by
    cases job <;> first | rfl | cases hwork
  have hturns : c'.turns = c.turns := hfilter Job.isTurn fun job hturn => by
    cases job <;> first | rfl | cases hturn
  obtain ⟨w, ready, hcalls, hsession⟩ := hsession
  refine ⟨hchronicle, ?_, ?_, ?_, ?_, ?_, hturns, fun hphase => ?_, fun hrunning => ⟨?_, hwork⟩,
    fun who outcome hjob => (hmem rfl).1 hjob, fun f hjob => .inr ((hmem rfl).2 hjob),
    fun outcome hjob => .inr ((hmem rfl).2 hjob)⟩
  · rw [hsession]
  · rw [hsession]
  · rw [hsession]
  · rw [hsession]
  · rw [hsession]
    exact hcalls
  · rw [hwork, hsession]
    exact hphase
  · rw [hsession]
    exact hrunning

theorem alike_takeUp (c : Course) :
    Alike c
      { c with
        agenda := c.agenda ++ c.session.ready
        session := { c.session with ready := [] } } := by
  refine alike_of_filter rfl ⟨c.session.workspace, [], .refl _, rfl⟩ ?_
  show (c.agenda ++ c.session.ready ++ []).filter _ = _
  rw [List.append_nil]
  rfl

theorem alike_around {w : Workspace} (hcalls : SameCalls c.session.workspace w) :
    Alike c { c with session := { c.session with workspace := w } } :=
  alike_of_filter rfl ⟨w, c.session.ready, hcalls, rfl⟩ rfl

/-- A report of the file system becomes a notice at most. -/
theorem alike_report (c : Course) (r : NativeReport) :
    Alike c { c with session := (c.session.report r).2 } := by
  unfold Session.report
  split
  · exact alike_of_filter rfl ⟨_, _, .refl _, rfl⟩ rfl
  · rename_i number _
    refine alike_of_filter rfl ⟨c.session.workspace, _, .refl _, rfl⟩ ?_
    refine Eq.trans (filter_of_ready (c := c) (!·.isOutside) rfl rfl) ?_
    have hnone : (r.notice?.toList.map (Job.notice number)).filter (!·.isOutside) = [] := by
      cases r.notice? <;> rfl
    rw [hnone, List.append_nil]

theorem Takes.alike (h : c.Takes job c₀) (houtside : job.isOutside = true) : Alike c c₀ := by
  have hfilter : c₀.jobs.filter (!·.isOutside) = c.jobs.filter (!·.isOutside) :=
    h.filter_of_false (p := (!·.isOutside)) (by rw [houtside]; rfl)
  obtain ⟨before, after, -, rfl⟩ := h
  exact alike_of_filter rfl ⟨c.session.workspace, c.session.ready, .refl _, rfl⟩ hfilter

/-- Someone was told of the end of a run: the session that watching has ended, if the run has failed,
and the task that it has ended. -/
theorem Takes.alike_of_told {who : Listener} {outcome : Except Fault Unit}
    (h : c.Takes (.runEnded who outcome) c₀)
    (hheard : ∀ f, who = .session → outcome = .error f → c.session.verdict.isSome)
    (hwaits : who = .task 0 →
      ∃ result, c.session.tasks[0]?.map Task.stage = some (.ended result)) : Alike c c₀ := by
  have hmem (other : Job) : other ∈ c.jobs ↔ other = .runEnded who outcome ∨ other ∈ c₀.jobs :=
    h.mem_jobs
  have hwork : c₀.work = c.work := h.filter_of_false rfl
  have hturns : c₀.turns = c.turns := h.filter_of_false rfl
  obtain ⟨before, after, -, rfl⟩ := h
  refine ⟨rfl, rfl, rfl, rfl, rfl, rfl, hturns, fun hphase => ?_, fun hrunning => ⟨hrunning, hwork⟩,
    fun who' outcome' hjob => (hmem _).2 (.inr hjob), fun f hjob => ?_, fun outcome' hjob => ?_⟩
  · rw [hwork]
    exact hphase
  · rcases (hmem _).1 hjob with hself | hrest
    · cases hself
      exact .inl (hheard f rfl rfl)
    · exact .inr hrest
  · rcases (hmem _).1 hjob with hself | hrest
    · cases hself
      exact .inl (hwaits rfl)
    · exact .inr hrest

/-- Only the command of the run can end. -/
theorem Phase.endBuild {scheduler : Scheduler Listener} {work : List Job}
    {running : List RunningBuild} (h : Phase scheduler work running) {build : RunningBuild}
    (hmem : build ∈ running) (status : Int) :
    Phase scheduler (work ++ [.buildEnded build status])
      (running.filter (·.number != build.number)) := by
  cases h with
  | rest _ _ _ hrunning =>
    rw [hrunning] at hmem
    cases hmem
  | start _ _ _ hrunning =>
    rw [hrunning] at hmem
    cases hmem
  | @command b building run owner command =>
    rcases command with ⟨hwork, hrunning⟩ | ⟨-, hrunning⟩
    · rw [hrunning] at hmem ⊢
      obtain rfl := List.mem_singleton.1 hmem
      refine .command building run owner (.inr ⟨⟨status, ?_⟩, ?_⟩)
      · rw [hwork, List.nil_append]
      · simp
    · rw [hrunning] at hmem
      cases hmem

/-- The end of a command is something to go on with. -/
theorem alike_endBuild (c : Course) (status : Int) :
    Alike c { c with session := (c.session.endBuild status).2 } := by
  have hsame : Alike c c := alike_of_filter rfl ⟨_, _, .refl _, rfl⟩ rfl
  cases hfind : c.session.running.find? fun b => b.number + 1 == c.session.desk.builds.length with
  | none =>
    have hnothing : (c.session.endBuild status).2 = c.session := by
      unfold Session.endBuild
      rw [hfind]
    rw [hnothing]
    exact hsame
  | some build =>
    rw [endBuild_of_find? hfind]
    have hmem := List.mem_of_find?_eq_some hfind
    let s : Session :=
      { c.session with running := c.session.running.filter (·.number != build.number) }
    have hjobs : Course.jobs { c with session := s.push (.buildEnded build status) } =
        c.jobs ++ [.buildEnded build status] := jobs_of_ready rfl rfl
    -- The one new job is about the command, and no listener is told of a run by it.
    have hold {who : Listener} {outcome : Except Fault Unit} :
        .runEnded who outcome ∈ c.jobs ++ [Job.buildEnded build status] ↔
          .runEnded who outcome ∈ c.jobs := by simp
    refine ⟨rfl, rfl, rfl, rfl, rfl, rfl, ?_, fun hphase => ?_, fun hrunning => ?_,
      fun who outcome hjob => ?_, fun f hjob => ?_, fun outcome hjob => ?_⟩
    · rw [turns, hjobs, List.filter_append]
      exact List.append_nil _
    · rw [Course.work, hjobs, List.filter_append]
      exact hphase.endBuild hmem status
    · rw [hrunning] at hmem
      cases hmem
    · rw [hjobs] at hjob
      exact hold.1 hjob
    · rw [hjobs]
      exact .inr (hold.2 hjob)
    · rw [hjobs]
      exact .inr (hold.2 hjob)

end Course

end ProbeKit
