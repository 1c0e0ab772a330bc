import ProbeKit.Proofs.Session.Stages

/-!
# How watching begins and is stopped

A stop, a start and what the task does once watching is over lead from one stage to another
(`Course.Stands.stop`, `Course.Stands.begin`, `Course.Stands.stopped`).  So does all else that may
happen, and hence a course is in one of the stages at any moment (`Course.Reached.stands`).
-/

namespace ProbeKit

open Act Session

namespace Course

variable {c c' c₀ : Course} {job : Job} {waiter : Option Nat} {before : List ObserverCall}
  {early : List Notice}

/-! ### Stops -/

/-- Without a front end there is nothing to be stopped once watching has ended. -/
theorem stop_eq_self {s : Session} (hfront : s.front = none)
    (hended : s.signal = none ∨ s.verdict.isSome) : s.stop = s := by
  unfold Session.stop
  rw [hfront]
  rcases hended with hsignal | hverdict
  · unfold Session.resolve
    rw [hsignal]
  · obtain ⟨outcome, hsome⟩ := Option.isSome_iff_exists.1 hverdict
    exact resolve_of_verdict hsome (.ok ())

/-- A stop ends the watching, unless it has ended before. -/
theorem Open.stop (h : Open waiter c) : Open waiter { c with session := c.session.stop } := by
  obtain ⟨w, hstop⟩ := exists_stop c.session
  rw [hstop]
  have hset : Open waiter { c with session := { c.session with workspace := w, front := none } } :=
    ⟨⟨⟨h.told, h.recorded, h.news, h.heard, h.handled, h.blamed, fun _ => rfl⟩, h.phase⟩, h.signal,
      h.listeners, h.untold⟩
  cases hverdict : c.session.verdict with
  | some outcome =>
    rw [resolve_of_verdict (s := { c.session with workspace := w, front := none }) hverdict]
    exact hset
  | none =>
    have hopen := hset.resolve_of_none hverdict (.ok ()) []
      (fun f hf => by cases hf) (fun f hf => by cases hf) fun _ => rfl
    rw [List.append_nil] at hopen
    exact hopen

/-- **A stop is safe in whatever stage the task is.** -/
theorem Stands.stop (h : Stands before early c) :
    Stands before early { c with session := c.session.stop } := by
  have hover (gone : Over before c) : c.session.stop = c.session :=
    stop_eq_self gone.front (.inr gone.verdict)
  cases h with
  | fresh untouched turns tasks front signal calls =>
    rw [stop_eq_self front (.inl signal)]
    exact .fresh untouched turns tasks front signal calls
  | watching opened tasks started observed stopped =>
    have hfront := front_stop c.session
    refine .watching opened.stop ((tasks_stop _).trans tasks) started ?_ fun _ => ?_
    · rw [hfront]
      exact observed.stop
    · exact isSome_verdict_stop opened.signal_ne_none
  | closing gone tasks started verdict waits told =>
    rw [hover gone]
    exact .closing gone tasks started verdict waits told
  | done gone tasks started verdict run =>
    rw [hover gone]
    exact .done gone tasks started verdict run
  | failed gone tasks blamed =>
    rw [hover gone]
    exact .failed gone tasks blamed

/-! ### The end of the watching -/

theorem listen_of_pending {s : Session} (hrun : s.scheduler.run = .pending) (who : Listener) :
    s.listen who =
      (none, { s with scheduler := { s.scheduler with
        listeners := s.scheduler.listeners ++ [who] } }) := by
  have hlisten : s.scheduler.listen who =
      (none, { s.scheduler with listeners := s.scheduler.listeners ++ [who] }) := by
    unfold Scheduler.listen
    split
    · rename_i hnone
      rw [hrun] at hnone
      cases hnone
    · rename_i hended
      rw [hrun] at hended
      cases hended
    · rfl
  unfold Session.listen
  rw [hlisten]

/-- The last run is over, or there was none. -/
theorem listen_of_not_pending {s : Session} {outcome : Except Fault Unit} (who : Listener)
    (hrun : s.scheduler.run = .none ∧ outcome = .ok () ∨ s.scheduler.run = .ended outcome) :
    s.listen who = (some outcome, s) := by
  unfold Session.listen Scheduler.listen
  rcases hrun with ⟨hrun, rfl⟩ | hrun
  · rw [hrun]
  · rw [hrun]

/-- Once watching was stopped the task waits for the last run. -/
theorem Over.waits (gone : Over before c) {stage : Stage}
    (htasks : c.session.tasks = [⟨.watch early, stage⟩]) (started : Started c.chronicle)
    (hverdict : c.session.verdict = some (.ok ()))
    (huntold : ∀ number outcome, .runEnded (.task number) outcome ∉ c.jobs) :
    Stands before early
      { c with session :=
        match c.session.listen (.task 0) with
        | (none, s) => s.setStage 0 .closing
        | (some outcome, s) => s.endTask 0 (withoutResult outcome) } := by
  cases hrun : c.session.scheduler.run with
  | none =>
    have hlisten : c.session.listen (.task 0) = (some (.ok ()), c.session) :=
      listen_of_not_pending _ (.inl ⟨hrun, rfl⟩)
    rw [hlisten]
    have hover := gone.withTasks (c.session.endTask 0 (withoutResult (.ok ()))).tasks
    exact .done hover (tasks_endTask htasks (.ended (.ok none))) started hverdict (.inl hrun)
  | ended outcome =>
    rw [listen_of_not_pending _ (.inr hrun)]
    exact gone.ended htasks started hverdict hrun
  | pending =>
    -- The task is added to those who are told, and the session stays among them.
    rw [listen_of_pending hrun]
    refine .closing ⟨⟨⟨fun _ => ?_, gone.recorded, gone.news, gone.heard, gone.handled, gone.blamed,
      gone.stopped⟩, ?_⟩, gone.turns, gone.verdict, gone.front, gone.observed⟩
      (tasks_endTask htasks .closing) started hverdict (.inl ⟨hrun, ?_⟩) fun outcome hjob => ?_
    · exact List.mem_append_left _ (gone.told hrun)
    · cases gone.phase with
      | rest _ run => exact absurd hrun run
      | start building run work running => exact .start building run work running
      | command building run owner command => exact .command building run owner command
    · exact List.mem_append_right _ (List.mem_singleton_self _)
    · exact absurd hjob (huntold 0 outcome)

/-- **Once watching is over the task ends with a fault that is on record, or it sees to the last
run.** -/
theorem Over.close (gone : Over before c) {stage : Stage}
    (htasks : c.session.tasks = [⟨.watch early, stage⟩]) (outcome : Except Fault Unit)
    (hfault : ∀ f, outcome = .error f → ∃ part, (part, .error f) ∈ c.chronicle)
    (hwell : outcome = .ok () → Started c.chronicle ∧ c.session.verdict = some (.ok ()))
    (huntold : ∀ number outcome, .runEnded (.task number) outcome ∉ c.jobs) :
    Stands before early { c with session := c.session.close 0 outcome } := by
  have hstop : c.session.stop = c.session := stop_eq_self gone.front (.inr gone.verdict)
  unfold Session.close
  rw [hstop]
  cases outcome with
  | error f =>
    exact .failed (gone.withTasks _) (tasks_endTask htasks (.ended (.error f))) (hfault f rfl)
  | ok _ =>
    obtain ⟨started, hverdict⟩ := hwell rfl
    exact gone.waits htasks started hverdict huntold

theorem stop_stop {s : Session} (h : s.signal ≠ none) : s.stop.stop = s.stop :=
  stop_eq_self (front_stop s) (.inr (isSome_verdict_stop h))

/-- To stop twice is to stop once. -/
theorem close_stop {s : Session} (h : s.signal ≠ none) (number : Nat)
    (outcome : Except Fault Unit) : s.stop.close number outcome = s.close number outcome := by
  unfold Session.close
  rw [stop_stop h]

theorem Open.over (h : Open waiter c) (hturns : c.turns = []) (hfront : c.session.front = none)
    (hverdict : c.session.verdict.isSome)
    (hobserved : Observed before none c.session.desk.calls) : Over before c :=
  ⟨h.toSound, hturns, hverdict, hfront, hobserved⟩

theorem verdict_stop {s : Session} {outcome : Except Fault Unit} (h : s.verdict = some outcome) :
    s.stop.verdict = some outcome := by
  obtain ⟨w, hstop⟩ := exists_stop s
  have hsame := resolve_of_verdict (s := { s with workspace := w, front := none }) h (.ok ())
  rw [hstop, hsame]
  exact h

theorem Takes.sound_of_turn (h : c.Takes job c₀) (hturn : job.isTurn = true) (hsound : c.Sound) :
    c₀.Sound := by
  have hwork : c₀.work = c.work := h.filter_of_false (by cases job <;> trivial)
  have htold := hsound.toTold.drop h fun f hjob => by
    rw [hjob] at hturn
    cases hturn
  refine ⟨htold, ?_⟩
  rw [hwork]
  obtain ⟨before, after, -, rfl⟩ := h
  exact hsound.phase

/-- The task takes up that watching has ended, and the session stops. -/
theorem Open.over_stop (h : Open (some 0) c) {outcome : Except Fault Unit}
    (hverdict : c.session.verdict = some outcome)
    (hobserved : Observed before c.session.front c.session.desk.calls)
    (htakes : Takes { c with session := c.session.stop } (.stopped 0 outcome) c') :
    Over before c' := by
  have hstopped := verdict_stop hverdict
  obtain ⟨⟨verdict, waiter⟩, hsignal, rfl, hturns⟩ := h.stop.signal
  rw [Session.verdict, show c.session.stop.signal = _ from hsignal] at hstopped
  obtain rfl : verdict = some outcome := hstopped
  obtain ⟨-, hnothing⟩ := htakes.filter_of_true (p := Job.isTurn) rfl hturns
  have hsound := htakes.sound_of_turn rfl h.stop.toSound
  obtain ⟨before, after, -, rfl⟩ := htakes
  refine ⟨hsound, hnothing, ?_, front_stop _, hobserved.stop⟩
  exact isSome_verdict_stop h.signal_ne_none

/-- **A task that is told of the end of the watching sees that nothing is left of it.** -/
theorem Stands.stopped (h : Stands before early c) {number : Nat} {outcome : Except Fault Unit}
    (htakes : c.Takes (.stopped number outcome) c₀) :
    Stands before early (c₀.carryOn (.stopped number outcome)) := by
  have hmem : .stopped number outcome ∈ c.turns :=
    List.mem_filter.2 ⟨htakes.mem_jobs.2 (.inl rfl), rfl⟩
  have hnever (hturns : c.turns = []) : False := by
    rw [hturns] at hmem
    cases hmem
  cases h with
  | fresh _ turns =>
    rw [turns] at hmem
    cases List.mem_singleton.1 hmem
  | closing gone => exact (hnever gone.turns).elim
  | done gone => exact (hnever gone.turns).elim
  | failed gone => exact (hnever gone.turns).elim
  | watching opened tasks started observed stopped =>
    obtain ⟨⟨verdict, waiter⟩, hsignal, rfl, hturns⟩ := opened.signal
    cases verdict with
    | none => exact (hnever hturns).elim
    | some verdict =>
      -- The one who waits is told what watching has come to.
      rw [hturns] at hmem
      cases List.mem_singleton.1 hmem
      have hverdict : c.session.verdict = some outcome := by
        rw [Session.verdict, hsignal]
        rfl
      obtain ⟨first, last, hagenda, rfl⟩ := htakes
      have hstop : Takes { c with session := c.session.stop } (.stopped 0 outcome)
          { c with agenda := first ++ last, session := c.session.stop } :=
        ⟨first, last, hagenda, rfl⟩
      have hstands := (opened.over_stop hverdict observed hstop).close
        ((tasks_stop _).trans tasks) outcome (fun f hf => ?_)
        (fun hok => ⟨started, ?_⟩)
        fun number result hjob => opened.stop.untold number result (hstop.mem_jobs.2 (.inr hjob))
      · have hclose := close_stop opened.signal_ne_none 0 outcome
        rw [carryOn, recorded, List.append_nil]
        show Stands before early
          { c with agenda := first ++ last, session := c.session.close 0 outcome }
        rw [← hclose]
        exact hstands
      · rw [hf] at hverdict
        exact opened.blamed f hverdict
      · rw [hok] at hverdict
        exact verdict_stop hverdict

/-! ### The beginning of the watching -/

/-- **A start that fails ends the task, and leaves no observer behind.** -/
theorem Begun.failed {f : Fault} (h : Begun c (.error f) c')
    (htasks : c.session.tasks = [⟨.watch early, .fresh⟩]) :
    Stands c.session.desk.calls early { c' with session := c'.session.close 0 (.error f) } := by
  have hopen := h.opened.stop
  have hstop := isSome_verdict_stop h.opened.signal_ne_none
  have hnothing : Course.turns { c' with session := c'.session.stop } = [] := by
    obtain ⟨⟨verdict, waiter⟩, -, rfl, hturns⟩ := hopen.signal
    rw [hturns]
    cases verdict <;> rfl
  have hover := hopen.over hnothing (front_stop _) hstop h.observed.stop
  have hstands := hover.close ((tasks_stop _).trans (h.tasks.trans htasks)) (.error f)
    (fun g hg => ?_) (fun hok => ?_) hopen.untold
  · rw [show Session.close c'.session.stop 0 (.error f) = _ from
      close_stop h.opened.signal_ne_none 0 (.error f)] at hstands
    exact hstands
  · exact h.blamed g hg
  · cases hok

/-- **A start that goes well has the task wait for the end of the watching**, unless an event has
ended it already. -/
theorem Begun.done (h : Begun c (.ok ()) c')
    (htasks : c.session.tasks = [⟨.watch early, .fresh⟩]) :
    Stands c.session.desk.calls early { c' with session := c'.session.awaitStop 0 } := by
  obtain ⟨hfront, hstarted⟩ := h.started rfl
  obtain ⟨⟨verdict, waiter⟩, hsignal, rfl, hturns⟩ := h.opened.signal
  have hverdict : c'.session.verdict = verdict := by
    rw [Session.verdict, hsignal]
    rfl
  unfold awaitStop
  rw [hsignal]
  -- An event that was handled during the start may have ended the watching already.
  cases verdict with
  | none =>
    refine .watching ⟨⟨⟨h.opened.told, h.opened.recorded, h.opened.news, fun f hf => ?_,
      fun f hf => ?_, fun f hf => ?_, fun hstopped => ?_⟩, h.opened.phase⟩,
      ⟨⟨none, some 0⟩, rfl, rfl, hturns⟩, h.opened.listeners, h.opened.untold⟩
      (tasks_endTask (h.tasks.trans htasks) .watching) hstarted h.observed
      fun hnone => absurd hnone hfront
    · have hheard := h.opened.heard f hf
      rw [hverdict] at hheard
      exact hheard
    · have hhandled := h.opened.handled f hf
      rw [hverdict] at hhandled
      exact hhandled
    · cases hf
    · cases hstopped
  | some outcome =>
    cases outcome with
    | ok _ => exact absurd (h.opened.stopped hverdict) hfront
    | error f =>
      -- The task hears of it at once, as if the start itself had failed.
      have hfailed : Begun c (.error f) c' := by
        refine ⟨h.opened, h.tasks, h.observed, fun hok => ?_, fun g hg => ?_⟩
        · cases hok
        · cases hg
          exact h.opened.blamed f hverdict
      exact hfailed.failed htasks

theorem Takes.untouched {number : Nat} (h : c.Takes (.beginTask number) c₀)
    (huntouched : c.Untouched) : c₀.Untouched := by
  have hwork : c₀.work = c.work := h.filter_of_false rfl
  have hnews (who : Listener) (outcome : Except Fault Unit) : .runEnded who outcome ∉ c₀.jobs :=
    fun hjob => huntouched.news who outcome (h.mem_jobs.2 (.inr hjob))
  obtain ⟨first, last, -, rfl⟩ := h
  exact ⟨huntouched.chronicle, huntouched.scheduler, huntouched.running,
    hwork.trans huntouched.work, hnews⟩

/-- **The task begins to watch.** -/
theorem Stands.begin (h : Stands before early c) {number : Nat}
    (htakes : c.Takes (.beginTask number) c₀) :
    Stands before early (c₀.carryOn (.beginTask number)) := by
  have hmem : .beginTask number ∈ c.turns :=
    List.mem_filter.2 ⟨htakes.mem_jobs.2 (.inl rfl), rfl⟩
  have hnever (hturns : c.turns = []) : False := by
    rw [hturns] at hmem
    cases hmem
  -- In every stage but the first there is no turn of the task left that could begin it.
  cases h with
  | closing gone => exact (hnever gone.turns).elim
  | done gone => exact (hnever gone.turns).elim
  | failed gone => exact (hnever gone.turns).elim
  | watching opened =>
    obtain ⟨⟨verdict, waiter⟩, -, rfl, hturns⟩ := opened.signal
    rw [hturns] at hmem
    cases verdict with
    | none => cases hmem
    | some verdict => cases List.mem_singleton.1 hmem
  | fresh untouched turns tasks front signal calls =>
    obtain ⟨heq, hnothing⟩ := htakes.filter_of_true (p := Job.isTurn) rfl turns
    cases heq
    have huntouched := htakes.untouched untouched
    obtain ⟨first, last, -, rfl⟩ := htakes
    have hbegun := huntouched.start front hnothing early
    have hrecorded : c.session.recorded (.beginTask 0) = c.session.begun early := by
      unfold recorded
      rw [tasks]
      rfl
    have hperform : c.session.perform (.beginTask 0) = c.session.beginWatch 0 early := by
      unfold perform beginTask
      rw [tasks]
      rfl
    rw [carryOn, show Session.recorded _ (.beginTask 0) = _ from hrecorded,
      show Session.perform _ (.beginTask 0) = _ from hperform, untouched.chronicle, List.nil_append,
      ← calls, beginWatch]
    rcases hstart : (Session.start early).on c.session with ⟨f | ⟨⟩, t⟩
    all_goals rw [show (Session.start early).on _ = _ from hstart] at hbegun
    · exact hbegun.failed tasks
    · exact hbegun.done tasks

/-! ### Steps -/

/-- **Whatever happens, the course goes on from one stage to another.** -/
theorem Stands.step (h : Stands before early c) (hstep : Step c c') : Stands before early c' := by
  cases hstep with
  | takeUp => exact h.alike (alike_takeUp c)
  | hear houtside => exact h.hear houtside
  | report r => exact h.alike (alike_report c r)
  | endBuild status => exact h.alike (alike_endBuild c status)
  | stop => exact h.stop
  | around hcalls => exact h.alike (alike_around hcalls)
  | @perform first last job hagenda =>
    have htakes : c.Takes job { c with agenda := first ++ last } := ⟨first, last, hagenda, rfl⟩
    cases job with
    | beginTask number => exact h.begin htakes
    | beginRun => exact h.run htakes rfl
    | buildEnded build status => exact h.run htakes rfl
    | runEnded who outcome => exact h.tell htakes
    | stopped number outcome => exact h.stopped htakes
    | notice front n => exact (h.alike (htakes.alike rfl)).hear rfl
    | timer front number => exact (h.alike (htakes.alike rfl)).hear rfl

theorem stands_first (w : Workspace) (early : List Notice) :
    Stands w.desk.calls early (first w early) := by
  refine .fresh ⟨rfl, rfl, rfl, rfl, fun who outcome hjob => ?_⟩ rfl rfl rfl rfl rfl
  cases List.mem_singleton.1 hjob

/-- **So it does all the way.** -/
theorem Reached.stands {w : Workspace} (h : Reached w early c) :
    Stands w.desk.calls early c := by
  induction h with
  | refl => exact stands_first w early
  | tail _ hstep ih => exact ih.step hstep

end Course

end ProbeKit
