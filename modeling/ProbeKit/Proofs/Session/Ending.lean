import ProbeKit.Proofs.Disk.Loop
import ProbeKit.Proofs.Session.Closing
import ProbeKit.Proofs.Session.Converging

/-!
# What watching comes to

A task to watch comes back in the end with what watching has come to (`Course.Returned`), and then
nothing is left of it (`Course.Cleaned`), whatever happens later.  It comes back well only if nothing
has failed but runs that others have followed, and otherwise with a fault that is on record
(`Course.Reached.forgets_no_failure`).
-/

namespace ProbeKit

open Act Session

namespace Session

/-- Without a front end no observer is left running. -/
theorem Observed.exists_directories {before calls : List ObserverCall}
    (h : Observed before none calls) : ∃ directories : List Path,
      calls = before ++ directories.map .schedule ∨
        calls = before ++ directories.map .schedule ++ [.start, .stop, .join] := by
  cases h with
  | idle directories => exact ⟨directories, .inl rfl⟩
  | joined directories => exact ⟨directories, .inr rfl⟩

end Session

namespace Course

variable {c c' c₀ : Course} {job : Job} {before : List ObserverCall} {early : List Notice}
  {outcome : Except Fault (Option OneBuild)}

/-- The task to watch has come back. -/
def Returned (c : Course) (outcome : Except Fault (Option OneBuild)) : Prop :=
  c.session.tasks[0]?.map Task.stage = some (.ended outcome)

/-- Nothing is left of the watching. -/
structure Cleaned (before : List ObserverCall) (s : Session) : Prop where
  /-- An observer that was started was stopped and joined. -/
  observer : ∃ directories : List Path,
    s.desk.calls = before ++ directories.map .schedule ∨
      s.desk.calls = before ++ directories.map .schedule ++ [.start, .stop, .join]
  /-- There is no front end. -/
  front : s.front = none
  /-- No file is to be looked at. -/
  timers : s.pending? = none
  /-- Notices that still come in and timers that still fire change nothing. -/
  deaf : ∀ job, job.isOutside = true → s.perform job = s

/-! ### Behind the end -/

theorem Over.cleaned (h : Over before c) : Cleaned before c.session := by
  refine ⟨h.observed.exists_directories, h.front, ?_, fun job houtside => ?_⟩
  · unfold Session.pending?
    rw [h.front]
    rfl
  · exact congrArg Course.session (carryOn_of_front_eq_none h.front houtside)

/-- What is known once the task has come back. -/
structure Back (before : List ObserverCall) (early : List Notice) (c : Course)
    (outcome : Except Fault (Option OneBuild)) : Prop extends Over before c where
  /-- The task is the only one. -/
  tasks : c.session.tasks = [⟨.watch early, .ended outcome⟩]
  /-- If it has come back well, the session had started, was stopped, and builds have ended well. -/
  well : ∀ result, outcome = .ok result → Started c.chronicle ∧
    c.session.verdict = some (.ok ()) ∧
    (c.session.scheduler.run = .none ∨ c.session.scheduler.run = .ended (.ok ()))
  /-- If it has not, some part has failed. -/
  faulty : ∀ f, outcome = .error f → ∃ part, (part, .error f) ∈ c.chronicle

theorem Stands.back (h : Stands before early c) (hreturned : c.Returned outcome) :
    Back before early c outcome := by
  have hstage {stage : Stage} (htasks : c.session.tasks = [⟨.watch early, stage⟩]) :
      stage = .ended outcome := by
    unfold Returned at hreturned
    rw [htasks] at hreturned
    exact Option.some.inj hreturned
  cases h with
  | fresh _ _ tasks => cases hstage tasks
  | watching _ tasks => cases hstage tasks
  | closing _ tasks => cases hstage tasks
  | done gone tasks started verdict run =>
    cases hstage tasks
    refine ⟨gone, tasks, fun _ _ => ⟨started, verdict, run⟩, fun f hf => ?_⟩
    cases hf
  | failed gone tasks blamed =>
    cases hstage tasks
    refine ⟨gone, tasks, fun _ hok => ?_, fun f hf => ?_⟩
    · cases hok
    · cases hf
      exact blamed

theorem Over.isTurn_eq_false (h : Over before c) (htakes : c.Takes job c₀) :
    job.isTurn = false := by
  refine Bool.eq_false_iff.2 fun hturn => ?_
  have hmem : job ∈ c.turns := List.mem_filter.2 ⟨htakes.mem_jobs.2 (.inl rfl), hturn⟩
  rw [h.turns] at hmem
  cases hmem

/-- **A task that has come back has come back for good.** -/
theorem Back.tasks_step (h : Back before early c outcome) (hstep : Step c c') :
    c'.session.tasks = c.session.tasks := by
  cases hstep with
  | takeUp => rfl
  | around => rfl
  | report r => exact (alike_report c r).tasks
  | endBuild status => exact (alike_endBuild c status).tasks
  | stop => exact tasks_stop c.session
  | hear houtside => rw [carryOn_of_front_eq_none h.front houtside]
  | @perform first last job hagenda =>
    have htakes : c.Takes job { c with agenda := first ++ last } := ⟨first, last, hagenda, rfl⟩
    have hturn := h.isTurn_eq_false htakes
    have hdeaf := h.cleaned.deaf job
    -- Nothing is left to go on of the task, and a run that goes on leaves it alone.
    cases job with
    | beginTask number => cases hturn
    | stopped number outcome => cases hturn
    | beginRun => exact (htakes.carries h.toSound rfl).2.1.kept.tasks
    | buildEnded build status => exact (htakes.carries h.toSound rfl).2.1.kept.tasks
    | notice front n => exact congrArg Session.tasks (hdeaf rfl)
    | timer front number => exact congrArg Session.tasks (hdeaf rfl)
    | runEnded who result =>
      cases who with
      | task number => exact congrArg Session.tasks (tell_of_ended h.tasks number result)
      | session =>
        cases result with
        | ok _ => rfl
        | error f => exact (kept_resolve c.session (.error f)).tasks

theorem Reached.returned {w : Workspace} (h : Reached w early c) (hreturned : c.Returned outcome)
    (hsteps : Relation.ReflTransGen Step c c') : c'.Returned outcome := by
  induction hsteps with
  | refl => exact hreturned
  | tail hfirst hlast ih =>
    have hreached : Reached w early _ := Relation.ReflTransGen.trans h hfirst
    unfold Returned
    rw [(hreached.stands.back ih).tasks_step hlast]
    exact ih

/-! ### At rest -/

/-- Watching that was stopped has seen no event fail. -/
theorem Told.eq_build_of_stopped (h : c.Told) (hstarted : Started c.chronicle)
    (hverdict : c.session.verdict = some (.ok ())) {part : Part} {f : Fault}
    (hf : (part, .error f) ∈ c.chronicle) : part = .build := by
  rcases hstarted.well part f hf with rfl | rfl
  · obtain ⟨g, hg⟩ := h.handled f hf
    rw [hverdict] at hg
    cases hg
  · rfl

/-- A run of which nothing is to go on is over. -/
theorem Sound.run_ne_pending (h : c.Sound) (hjobs : c.jobs = []) (hrunning : c.session.running = []) :
    c.session.scheduler.run ≠ .pending := by
  have hwork : c.work = [] := by
    rw [work, hjobs]
    rfl
  cases h.phase with
  | rest _ run => exact run
  | start _ _ work =>
    rw [hwork] at work
    cases work
  | command _ _ _ command =>
    rcases command with ⟨-, hruns⟩ | ⟨⟨status, hended⟩, -⟩
    · rw [hrunning] at hruns
      cases hruns
    · rw [hwork] at hended
      cases hended

/-- **Watching is never stuck with a failure**: at rest the task has come back, or the session goes
on watching and nothing has failed. -/
theorem Stands.rest (h : Stands before early c) (hjobs : c.jobs = [])
    (hrunning : c.session.running = []) :
    (∃ outcome, c.Returned outcome) ∨
      c.session.verdict = none ∧ ∀ part f, (part, .error f) ∉ c.chronicle := by
  have hnothing : c.turns = [] := by
    rw [turns, hjobs]
    rfl
  cases h with
  | fresh _ turns =>
    rw [hnothing] at turns
    cases turns
  | watching opened tasks started =>
    obtain ⟨⟨verdict, waiter⟩, hsignal, rfl, hturns⟩ := opened.signal
    have hverdict : c.session.verdict = verdict := by
      rw [Session.verdict, hsignal]
      rfl
    cases verdict with
    | some outcome =>
      -- The task would have something to go on with.
      rw [hnothing] at hturns
      cases hturns
    | none =>
      refine .inr ⟨hverdict, fun part f hf => ?_⟩
      rcases started.well part f hf with rfl | rfl
      · obtain ⟨g, hg⟩ := opened.handled f hf
        rw [hverdict] at hg
        cases hg
      · -- A run that has failed has ended the watching, or the session has yet to be told.
        rcases opened.heard f hf with hended | hjob
        · rw [hverdict] at hended
          cases hended
        · rw [hjobs] at hjob
          cases hjob
  | closing gone tasks started verdict waits =>
    rcases waits with ⟨hpending, -⟩ | ⟨outcome, hjob⟩
    · exact absurd hpending (gone.run_ne_pending hjobs hrunning)
    · rw [hjobs] at hjob
      cases hjob
  | done gone tasks =>
    refine .inl ⟨.ok none, ?_⟩
    rw [Returned, tasks]
    rfl
  | @failed f gone tasks =>
    refine .inl ⟨.error f, ?_⟩
    rw [Returned, tasks]
    rfl

/-! ### Coming back -/

theorem Stands.open_of_watching (h : Stands before early c)
    (htasks : c.session.tasks = [⟨.watch early, .watching⟩]) : Open (some 0) c := by
  have hstage {stage : Stage} (hother : c.session.tasks = [⟨.watch early, stage⟩]) :
      stage = .watching := by
    rw [htasks] at hother
    cases hother
    rfl
  cases h with
  | watching opened => exact opened
  | fresh _ _ tasks => cases hstage tasks
  | closing _ tasks => cases hstage tasks
  | done _ tasks => cases hstage tasks
  | failed _ tasks => cases hstage tasks

/-- **A stop brings back a task that has no run to wait for.** -/
theorem Stands.exists_returned (h : Stands before early c)
    (htasks : c.session.tasks = [⟨.watch early, .watching⟩]) (hverdict : c.session.verdict = none)
    {outcome : Except Fault Unit}
    (hrun : c.session.scheduler.run = .none ∧ outcome = .ok () ∨
      c.session.scheduler.run = .ended outcome) :
    ∃ c', Relation.ReflTransGen Step c c' ∧ c'.Returned (withoutResult outcome) := by
  obtain ⟨⟨verdict, waiter⟩, hsignal, rfl, -⟩ := (h.open_of_watching htasks).signal
  obtain rfl : verdict = none := by
    rw [Session.verdict, hsignal] at hverdict
    exact hverdict
  obtain ⟨w, hstop⟩ := exists_stop c.session
  rw [resolve_of_open (s := { c.session with workspace := w, front := none }) hsignal] at hstop
  -- After the stop the watching has ended, and the task is the one who is told.
  let s : Session :=
    { c.session with
      workspace := w
      front := none
      signal := some ⟨some (.ok ()), some 0⟩
      ready := [] }
  have hstopped := Relation.ReflTransGen.single (Step.stop c)
  rw [hstop] at hstopped
  have htaken := hstopped.tail (.takeUp _)
  refine ⟨_, htaken.tail
    (@Step.perform _ (c.agenda ++ c.session.ready) [] (.stopped 0 (.ok ())) ?_), ?_⟩
  · exact (List.append_assoc _ _ _).symm
  · have hsame : s.stop = s := stop_eq_self rfl (.inr rfl)
    have hlisten : s.listen (.task 0) = (some outcome, s) := listen_of_not_pending _ hrun
    have hclose : s.close 0 (.ok ()) = s.endTask 0 (withoutResult outcome) := by
      unfold Session.close
      rw [hsame]
      dsimp only
      rw [hlisten]
    show (s.close 0 (.ok ())).tasks[0]?.map Task.stage = _
    rw [hclose, show (s.endTask 0 (withoutResult outcome)).tasks = _ from tasks_endTask htasks _]
    rfl

/-- Watching fails before anything is scanned if its directories cannot be found any more. -/
theorem exists_returned_of_unresolved {w : Workspace} {d : Disk} {e : DiskError}
    (hroots : w.scanner.roots.mapM d.resolve = .error e) (early : List Notice) :
    ∃ c, Reached w early c ∧ c.Returned (.error (.disk e)) ∧
      c.chronicle = [(.setup, .error (.disk e))] := by
  let s : Session := { workspace := w.withDisk d, tasks := [⟨.watch early, .fresh⟩] }
  let t : Session := { s with signal := some {} }
  have hmade : makeFront.on t = (.error (.disk e), t) := by
    unfold makeFront
    rw [on_get_bind]
    show (Act.ofExcept Fault.disk (w.scanner.roots.mapM d.resolve) >>= _).on _ = _
    rw [hroots]
    rfl
  have hset : (setUp early).on s = (.error (.disk e), t) := by
    rw [on_setUp_of_front rfl]
    exact on_bind_of_error hmade _
  have hstart : (start early).on s = (.error (.disk e), t) := by
    rw [start_eq]
    exact on_bind_of_error hset _
  -- The world changes between the opening of the session and the beginning of its task.
  have haround : Reached w early _ := .single (.around (first w early) (w := w.withDisk d) rfl)
  have htaken := haround.tail (.takeUp _)
  refine ⟨_, htaken.tail (@Step.perform _ [] [] (.beginTask 0) rfl), ?_, ?_⟩
  · show (s.beginWatch 0 early).tasks[0]?.map Task.stage = _
    unfold beginWatch
    rw [hstart]
    show (t.close 0 (.error (.disk e))).tasks[0]?.map Task.stage = _
    rw [show (t.close 0 (.error (.disk e))).tasks = _ from tasks_endTask (tasks_stop t) _]
    rfl
  · show s.begun early = _
    unfold begun
    rw [hset]

end Course

/-! ### Two courses on a small project -/

namespace Small

open Course

/-- The disk of the project once its directory of sources has become a link to itself. -/
def knotted : Disk := { top := .dir [("p", .dir [("t", .link "t")])], here := [] }

theorem resolve_knotted : knotted.resolve ⟨.root, ["p", "t"]⟩ =
    .error (.linkLoop ⟨.root, ["p", "t"]⟩) := by
  have hsplit : "t".splitOn "/" = ["t"] := by
    rw [String.splitOn, if_neg (by decide)]
    rw [String.splitOnAux, if_neg (by decide +kernel), if_neg (by decide +kernel)]
    rw [String.splitOnAux, if_pos (by decide +kernel)]
    decide +kernel
  have hloop : Disk.Loop knotted.top ["p"] "t" := ⟨rfl, by decide, by decide, hsplit⟩
  exact Disk.resolve_of_loop rfl (by decide) rfl hloop

/-- The project is built while it is watched. -/
theorem exists_built : ∃ w c, Reached w [] c ∧ c.session.tasks = [⟨.watch [], .watching⟩] ∧
    c.session.verdict = none ∧ c.session.scheduler.run = .ended (.ok ()) := by
  obtain ⟨w, -, hopen, hlast⟩ := exists_opened []
  obtain ⟨s, hstart, hbegins⟩ := hopen.on_start good_empty hlast [⟨.watch [], .fresh⟩]
  let s₀ : Session := { workspace := w, tasks := [⟨.watch [], .fresh⟩] }
  let s₁ : Session :=
    { s with signal := some ⟨none, some 0⟩, tasks := [⟨.watch [], .watching⟩] }
  have hbegun : s₀.perform (.beginTask 0) = s₁ := by
    show s₀.beginWatch 0 [] = s₁
    unfold beginWatch
    rw [hstart]
    show s.awaitStop 0 = s₁
    unfold awaitStop
    rw [hbegins.signal]
    show ({ s with signal := _, tasks := s.tasks.modify 0 _ } : Session) = s₁
    rw [hbegins.tasks]
    rfl
  obtain ⟨w₁, hopen₂, -, hrun⟩ :=
    Open.on_beginRun (s := s₁) hbegins.opened good_empty hbegins.queued
  obtain ⟨w₂, hend, -⟩ := hopen₂.on_endCycle (manifest "")
  have hbuilt := hrun (.ok ()) w₂ [] hend
  -- The task begins in the first turn, and the run in the second one.
  have htaken : Reached w [] ⟨[], [.beginTask 0], s₀⟩ := .single (.takeUp (first w []))
  have hwatching := htaken.tail (@Step.perform _ [] [] (.beginTask 0) rfl)
  have hagain := hwatching.tail (.takeUp _)
  have hagenda : [] ++ (s₀.perform (.beginTask 0)).ready = [] ++ .beginRun :: [] := by
    rw [hbegun]
    exact hbegins.ready
  refine ⟨w, _, hagain.tail (@Step.perform _ [] [] .beginRun hagenda), ?_⟩
  show (Session.beginRun { s₀.perform (.beginTask 0) with ready := [] }).tasks = _ ∧
    (Session.beginRun { s₀.perform (.beginTask 0) with ready := [] }).verdict = _ ∧
    (Session.beginRun { s₀.perform (.beginTask 0) with ready := [] }).scheduler.run = _
  rw [hbegun, hbuilt]
  exact ⟨rfl, rfl, rfl⟩

end Small

namespace Course

variable {c : Course} {early : List Notice}

/-! ### What watching comes to -/

/-- **Watching forgets no failure and leaves nothing behind**, whatever happens and in whatever
order.  It comes back well only if its start went well in all its parts, no event failed, and the
last run, if there was one, has ended well; if it comes back with a fault, that is the fault of some
part.  However it comes back, nothing is left of it, then and ever after.  And it does come back
where something has failed, once all has come to rest. -/
theorem Reached.forgets_no_failure {w : Workspace} (h : Reached w early c) :
    (∀ result, c.Returned (.ok result) →
        (∀ part ∈ [Part.setup, .seeding, .replay], (part, .ok ()) ∈ c.chronicle) ∧
          (∀ part f, (part, .error f) ∈ c.chronicle → part = .build) ∧
          (c.session.scheduler.run = .none ∨ c.session.scheduler.run = .ended (.ok ()))) ∧
      (∀ f, c.Returned (.error f) → ∃ part, (part, .error f) ∈ c.chronicle) ∧
      (∀ outcome, c.Returned outcome → ∀ c', Relation.ReflTransGen Step c c' →
        c'.Returned outcome ∧ Cleaned w.desk.calls c'.session) ∧
      (c.jobs = [] → c.session.running = [] →
        (∃ outcome, c.Returned outcome) ∨
          c.session.verdict = none ∧ ∀ part f, (part, .error f) ∉ c.chronicle) := by
  have hstands := h.stands
  refine ⟨fun result hreturned => ?_, fun f hreturned => ?_, fun outcome hreturned c' hsteps => ?_,
    hstands.rest⟩
  · have hback := hstands.back hreturned
    obtain ⟨hstarted, hverdict, hrun⟩ := hback.well result rfl
    exact ⟨hstarted.done, fun _ _ hf => hback.toTold.eq_build_of_stopped hstarted hverdict hf, hrun⟩
  · exact (hstands.back hreturned).faulty f rfl
  · have hlater := h.returned hreturned hsteps
    have hreached : Reached w early c' := Relation.ReflTransGen.trans h hsteps
    exact ⟨hlater, (hreached.stands.back hlater).cleaned⟩

/-- A project is built while it is watched, and then watching is stopped. -/
theorem forgets_no_failure_built :
    ∃ (w : Workspace) (c : Course), Reached w [] c ∧ c.Returned (.ok none) ∧
      (∀ part ∈ [Part.setup, .seeding, .replay], (part, .ok ()) ∈ c.chronicle) ∧
      (∀ part f, (part, .error f) ∈ c.chronicle → part = .build) ∧
      Cleaned w.desk.calls c.session := by
  obtain ⟨w, c, hreached, htasks, hverdict, hrun⟩ := Small.exists_built
  obtain ⟨c', hsteps, hreturned⟩ := hreached.stands.exists_returned htasks hverdict (.inr hrun)
  have hended : Reached w [] c' := Relation.ReflTransGen.trans hreached hsteps
  obtain ⟨hwell, -, hback, -⟩ := Reached.forgets_no_failure hended
  obtain ⟨hstarted, hbuilds, -⟩ := hwell none hreturned
  exact ⟨w, c', hended, hreturned, hstarted, hbuilds, (hback _ hreturned c' .refl).2⟩

/-- **Not only the scan, the events and the builds make watching fail**: if a directory of sources
has become a link to itself since the session was opened, there is nothing to observe, and the fault
is that of the beginning. -/
theorem not_only_scans_events_and_builds :
    ¬∀ {settings : Settings} {d d' : Desk} {w : Workspace} {early : List Notice} {c : Course}
      {f : Fault}, (Workspace.openUp settings true false).on d = (.ok w, d') →
        Reached w early c → c.Returned (.error f) →
          ∃ part ∈ [Part.seeding, .handler, .build], (part, .error f) ∈ c.chronicle := by
  intro hclaim
  obtain ⟨w, hopened, -, hscanner, -⟩ := Small.on_openUp (some 0) []
  have hroots : w.scanner.roots.mapM Small.knotted.resolve =
      .error (.linkLoop ⟨.root, ["p", "t"]⟩) := by
    rw [hscanner]
    show [(⟨.root, ["p", "t"]⟩ : Path)].mapM Small.knotted.resolve = _
    rw [List.mapM_cons, Small.resolve_knotted]
    rfl
  obtain ⟨c, hreached, hreturned, hchronicle⟩ := exists_returned_of_unresolved hroots []
  obtain ⟨part, hpart, hfailed⟩ := hclaim hopened hreached hreturned
  rw [hchronicle] at hfailed
  cases List.mem_singleton.1 hfailed
  exact absurd hpart (by decide)

end Course

end ProbeKit
