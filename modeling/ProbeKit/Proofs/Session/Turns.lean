import Mathlib.Logic.Relation
import ProbeKit.Proofs.Session.Converging

/-!
# The loop of a session that watches

Whatever a session that watches does, it only adds to what is ready (`Session.Adds`).  So a job of a
turn leaves those behind it where they are, and a turn of the loop is made of steps
(`Watched.Follows.steps_turn`).  Hence the loop goes from one session that is reached to another
(`Watched.Reached.advance`), unless something may go wrong.
-/

namespace ProbeKit

open Act Session

namespace Session

/-! ### Adding to what is ready -/

/-- Whatever else is ready, the same comes of a change of a session, which only adds to what is ready
and leaves the number of the front end as it is. -/
structure Adds (f : Session → Session) (s : Session) : Prop where
  /-- The front end keeps its number. -/
  frontNumber : (f s).frontNumber = s.frontNumber
  /-- What becomes ready does not depend on what was ready. -/
  ready : ∃ more, ∀ ready, f { s with ready } = { f s with ready := ready ++ more }

variable {f g : Session → Session} {s t : Session}

theorem Adds.of_same (hnumber : (f s).frontNumber = s.frontNumber)
    (hsame : ∀ ready, f { s with ready } = { f s with ready }) : Adds f s := by
  refine ⟨hnumber, [], fun ready => ?_⟩
  rw [List.append_nil]
  exact hsame ready

/-- A change may be another one of a session where the same is ready. -/
theorem Adds.via (h : Adds g t) (hnumber : t.frontNumber = s.frontNumber)
    (heq : ∀ ready, f { s with ready } = g { t with ready }) : Adds f s := by
  obtain ⟨hown, more, hmore⟩ := h
  have hfirst : f s = g { t with ready := s.ready } := heq s.ready
  rw [hmore] at hfirst
  refine ⟨?_, more, fun ready => ?_⟩
  · rw [hfirst]
    exact hown.trans hnumber
  · rw [heq, hmore, hfirst]

theorem Adds.comp (hg : Adds g (f s)) (hf : Adds f s) : Adds (fun s => g (f s)) s := by
  obtain ⟨more, hmore⟩ := hf.ready
  obtain ⟨more', hmore'⟩ := hg.ready
  refine ⟨hg.frontNumber.trans hf.frontNumber, more ++ more', fun ready => ?_⟩
  show g (f { s with ready }) = _
  rw [hmore, hmore', List.append_assoc]

theorem adds_self (s : Session) : Adds (fun s => s) s := .of_same rfl fun _ => rfl

theorem adds_foldl {α : Type} {act : Session → α → Session} (h : ∀ s a, Adds (act · a) s)
    (xs : List α) (s : Session) : Adds (fun s => xs.foldl act s) s := by
  induction xs generalizing s with
  | nil => exact adds_self s
  | cons x rest ih => exact (ih (act s x)).comp (h s x)

/-! ### Events -/

theorem adds_requestBuild (s : Session) : Adds (fun s => s.requestBuild.2) s := by
  cases hbuilding : s.scheduler.building with
  | false =>
    refine ⟨?_, [.beginRun], fun ready => ?_⟩
    · rw [Watched.requestBuild_of_rest hbuilding]
    · rw [Watched.requestBuild_of_rest hbuilding,
        Watched.requestBuild_of_rest (s := { s with ready }) hbuilding]
  | true =>
    exact (adds_self ({ s with
      scheduler := { s.scheduler with building := true, queued := true } }.noted
        s.scheduler.request.2.1)).via rfl fun ready =>
          Watched.requestBuild_of_pending (s := { s with ready }) hbuilding

/-- Who waits for the end of the watching is told of it. -/
theorem adds_fail (f : Fault) (s : Session) : Adds (fun s => s.fail f) s := by
  rcases hsignal : s.signal with _ | ⟨_ | outcome, waiter⟩
  · refine (adds_self s).via rfl fun ready => ?_
    unfold fail resolve
    rw [show ({ s with ready } : Session).signal = none from hsignal]
  · have hbreak (ready : List Job) : { s with ready }.fail f =
        { s with
          ready := ready ++ waiter.toList.map (.stopped · (.error f))
          signal := some ⟨some (.error f), waiter⟩ } := by
      unfold fail resolve
      rw [show ({ s with ready } : Session).signal = _ from hsignal]
      cases waiter with
      | none =>
        rw [Option.toList_none, List.map_nil, List.append_nil]
      | some number => rfl
    have hown : s.fail f = _ := hbreak s.ready
    refine ⟨?_, waiter.toList.map (.stopped · (.error f)), fun ready => ?_⟩
    · rw [hown]
    · rw [hbreak, hown]
  · -- Watching has ended before, and what ended it first is what counts.
    refine (adds_self s).via rfl fun ready => ?_
    unfold fail resolve
    rw [show ({ s with ready } : Session).signal = _ from hsignal]

theorem onEvent_of_error {e : Event} {f : Fault} {w : Workspace}
    (h : (Workspace.absorb e).on s.workspace = (.error f, w)) :
    s.onEvent e = { s with workspace := w }.fail f := by
  have habsorb : (onWorkspace (Workspace.absorb e)).on s =
      (.error f, { s with workspace := w }) := by
    rw [onWorkspace, on_within, h]
  unfold onEvent handle
  rw [on_bind_of_error habsorb]

theorem adds_onEvent (s : Session) (e : Event) : Adds (fun s => s.onEvent e) s := by
  rcases h : (Workspace.absorb e).on s.workspace with ⟨f | changed, w⟩
  · exact (adds_fail f { s with workspace := w }).via rfl fun ready =>
      onEvent_of_error (s := { s with ready }) h
  cases changed with
  | false =>
    exact (adds_self { s with workspace := w }).via rfl fun ready =>
      Watched.onEvent_of_absorb (s := { s with ready }) h
  | true =>
    exact (adds_requestBuild { s with workspace := w }).via rfl fun ready =>
      Watched.onEvent_of_absorb (s := { s with ready }) h

theorem adds_dispatch (n : Notice) (s : Session) : Adds (fun s => ((dispatch n).on s).2) s := by
  cases hf : s.front with
  | none =>
    refine (adds_self s).via rfl fun ready => ?_
    unfold dispatch
    rw [on_get_bind, show ({ s with ready } : Session).front = none from hf]
    rfl
  | some f =>
    exact (adds_foldl adds_onEvent (f.take s.sight n).2.1
      { s with front := some (f.take s.sight n).1 }).via rfl fun ready =>
        Watched.dispatch_eq (s := { s with ready }) hf

theorem adds_fire (number : Nat) (s : Session) : Adds (fun s => s.fire number) s := by
  cases hf : s.front with
  | none =>
    refine (adds_self s).via rfl fun ready => ?_
    unfold fire
    rw [show ({ s with ready } : Session).front = none from hf]
  | some f =>
    refine (adds_foldl adds_onEvent (f.fire s.sight number).2.1
      ({ s with front := some (f.fire s.sight number).1 }.noted
        (f.fire s.sight number).2.2)).via rfl fun ready => ?_
    unfold fire
    rw [show ({ s with ready } : Session).front = some f from hf]
    rfl

/-! ### Runs -/

theorem launch_withReady (owner : Owner) (s : Session) (ready : List Job) :
    launch owner { s with ready } =
      ((launch owner s).1, { (launch owner s).2 with ready }) := by
  rcases h : Workspace.beginCycle.on s.workspace with ⟨f | ⟨c, status⟩, w⟩
  · rw [launch_of_error h, launch_of_error (s := { s with ready }) h]
  cases status with
  | none => rw [launch_of_running h, launch_of_running (s := { s with ready }) h]
  | some status => rw [launch_of_ended h, launch_of_ended (s := { s with ready }) h]

theorem frontNumber_launch (owner : Owner) (s : Session) :
    (launch owner s).2.frontNumber = s.frontNumber := by
  unfold launch
  split <;> rfl

theorem adds_afterLaunch (owner : Owner) (s : Session)
    (h : ∀ t outcome, t.scheduler = s.scheduler → Adds (fun t => t.goOn outcome) t) :
    Adds (fun s => afterLaunch (launch owner s)) s := by
  have hscheduler := scheduler_launch owner s
  have hnumber := frontNumber_launch owner s
  have hready := launch_withReady owner s
  generalize launch owner s = launched at hscheduler hnumber hready
  obtain ⟨_ | outcome, t⟩ := launched
  · refine (adds_self t).via hnumber fun ready => ?_
    rw [hready]
    rfl
  · refine (h t outcome hscheduler).via hnumber fun ready => ?_
    rw [hready]
    rfl

/-- Everyone who listens is told how a run ends. -/
theorem adds_goOn_of_over {outcome : Except Fault Unit}
    (hend : s.scheduler.endCycle outcome =
      (.over s.scheduler.listeners, [], (s.scheduler.finish outcome).2)) :
    Adds (fun s => s.goOn outcome) s := by
  refine ⟨?_, s.scheduler.listeners.map fun who => .runEnded who outcome, fun ready => ?_⟩
  · rw [goOn_of_over hend]
  · rw [goOn_of_over hend, goOn_of_over (s := { s with ready }) hend]

theorem adds_goOn (outcome : Except Fault Unit) (s : Session) :
    Adds (fun s => s.goOn outcome) s := by
  cases hqueued : s.scheduler.queued with
  | false => exact adds_goOn_of_over (endCycle_of_not_queued hqueued outcome)
  | true =>
    cases outcome with
    | error f => exact adds_goOn_of_over rfl
    | ok _ =>
      -- The cycle that follows is the last one of the run.
      refine (adds_afterLaunch .run
        ({ s with scheduler := { s.scheduler with queued := false }.beginCycle }.noted
          [⟨.info, "scheduler", "Running coalesced rebuild"⟩]) fun t outcome hscheduler => ?_).via
        rfl fun ready => Watched.goOn_of_queued (s := { s with ready }) hqueued
      have hlast : t.scheduler.queued = false := congrArg Scheduler.queued hscheduler
      exact adds_goOn_of_over (endCycle_of_not_queued hlast outcome)

theorem adds_beginRun (s : Session) : Adds beginRun s :=
  (adds_afterLaunch .run { s with scheduler := s.scheduler.beginCycle } fun t outcome _ =>
    adds_goOn outcome t).via rfl fun _ => rfl

theorem adds_buildEnded (build : RunningBuild) (status : Int) (s : Session) :
    Adds (fun s => s.buildEnded build status) s := by
  rcases howner : build.owner with _ | number
  · refine (adds_goOn (s.endCycle build.cycle status).1 (s.endCycle build.cycle status).2).via rfl
      fun ready => ?_
    unfold buildEnded
    rw [howner]
    rfl
  · refine .of_same ?_ fun ready => ?_
    · unfold buildEnded
      rw [howner]
      rfl
    · unfold buildEnded
      rw [howner]
      rfl

end Session

namespace Watched

variable {P : Watched} {s : Session}

/-- **What may be ready of a session that watches only adds to what is ready.** -/
theorem adds_perform {job : Job} (h : P.Expected s.frontNumber job) :
    Adds (fun s => s.perform job) s := by
  cases job with
  | beginTask number => exact h.elim
  | stopped number outcome => exact h.elim
  | timer front number => exact h.elim
  | notice front n =>
    obtain ⟨rfl, -⟩ := h
    exact (adds_dispatch n s).via rfl fun ready => if_pos rfl
  | runEnded who outcome =>
    obtain ⟨rfl, rfl⟩ := h
    exact adds_self s
  | beginRun => exact adds_beginRun s
  | buildEnded b status => exact adds_buildEnded b status s

/-- What is ready first goes on. -/
theorem step_first (P : Watched) (s : Session) (job : Job) (ready : List Job) :
    P.Step { s with ready := job :: ready } ({ s with ready }.perform job) :=
  @Step.perform P { s with ready := job :: ready } [] ready job rfl fun _ _ => rfl

/-- The jobs of a turn go on one by one, while what becomes ready waits behind them. -/
theorem steps_jobs (P : Watched) (jobs : List Job) (s : Session)
    (h : ∀ job ∈ jobs, P.Expected s.frontNumber job) :
    Relation.ReflTransGen P.Step { s with ready := jobs ++ s.ready } (jobs.foldl perform s) ∧
      (jobs.foldl perform s).frontNumber = s.frontNumber := by
  induction jobs generalizing s with
  | nil => exact ⟨.refl, rfl⟩
  | cons job jobs ih =>
    obtain ⟨hnumber, more, hmore⟩ := adds_perform (h job List.mem_cons_self)
    have hown : (s.perform job).ready = s.ready ++ more := congrArg Session.ready (hmore s.ready)
    obtain ⟨hsteps, hlast⟩ := ih (s.perform job) fun job' hjob' => by
      rw [hnumber]
      exact h job' (List.mem_cons_of_mem _ hjob')
    -- What the job adds stands behind the jobs that are left, as it does in the turn.
    have hfirst := step_first P s job (jobs ++ s.ready)
    have hready : { s with ready := jobs ++ s.ready }.perform job = _ := hmore (jobs ++ s.ready)
    rw [hready, List.append_assoc, ← hown] at hfirst
    exact ⟨.head hfirst hsteps, hlast.trans hnumber⟩

/-- The timers of a turn fire one by one. -/
theorem steps_timers (P : Watched) (numbers : List Nat) (s : Session) :
    Relation.ReflTransGen P.Step s
      ((numbers.map (Job.timer s.frontNumber)).foldl perform s) := by
  induction numbers generalizing s with
  | nil => exact .refl
  | cons number rest ih =>
    have hnumber : (s.perform (.timer s.frontNumber number)).frontNumber = s.frontNumber := by
      show (if s.frontNumber = s.frontNumber then s.fire number else s).frontNumber = _
      rw [if_pos rfl]
      exact (adds_fire number s).frontNumber
    have hrest := ih (s.perform (.timer s.frontNumber number))
    rw [hnumber] at hrest
    exact .head (.timer number) hrest

/-- **A turn of the loop is made of steps.** -/
theorem Follows.steps_turn (h : P.Follows s) : Relation.ReflTransGen P.Step s s.turn := by
  obtain ⟨hjobs, hnumber⟩ := steps_jobs P s.ready { s with ready := [] } h.jobs
  rw [List.append_nil] at hjobs
  unfold turn
  rw [List.foldl_append]
  refine hjobs.trans ?_
  have htimers := steps_timers P
    (((s.front.map fun front => front.dueTimers s.desk.now).getD []).map (·.number))
    (s.ready.foldl perform { s with ready := [] })
  -- The front end has kept its number, so these are still its timers.
  rw [hnumber, List.map_map] at htimers
  exact htimers

/-! ### The loop -/

/-- A run may fail, or the watching be interrupted, in some steps from here. -/
def MayBreak (P : Watched) (s : Session) : Prop :=
  ∃ t, Relation.ReflTransGen P.Step s t ∧ t.Broken

/-- A session comes to another one in some steps, unless something may go wrong. -/
def Leads (P : Watched) (s s' : Session) : Prop :=
  P.MayBreak s ∨ Relation.ReflTransGen P.Step s s' ∧ P.Reached (fun s => ¬s.Broken) s'

variable {s' s'' : Session}

theorem Reached.leads (h : P.Reached (fun s => ¬s.Broken) s)
    (hsteps : Relation.ReflTransGen P.Step s s') : P.Leads s s' := by
  induction hsteps with
  | refl => exact .inr ⟨.refl, h⟩
  | @tail t t' hbefore hstep ih =>
    rcases ih with hbreak | ⟨-, hreached⟩
    · exact .inl hbreak
    · by_cases hbroken : t'.Broken
      · exact .inl ⟨t', hbefore.tail hstep, hbroken⟩
      · exact .inr ⟨hbefore.tail hstep, hreached.step hstep hbroken⟩

theorem Leads.trans (h : P.Leads s s')
    (h' : P.Reached (fun s => ¬s.Broken) s' → P.Leads s' s'') : P.Leads s s'' := by
  rcases h with hbreak | ⟨hsteps, hreached⟩
  · exact .inl hbreak
  rcases h' hreached with ⟨t, ht, hbroken⟩ | ⟨hrest, hreached'⟩
  · exact .inl ⟨t, hsteps.trans ht, hbroken⟩
  · exact .inr ⟨hsteps.trans hrest, hreached'⟩

theorem Reached.turns (h : P.Reached (fun s => ¬s.Broken) s) (htool : P.LeavesAlone) (n : Nat) :
    P.Leads s (loop.turns n s) := by
  induction n generalizing s with
  | zero => exact h.leads .refl
  | succ n ih =>
    unfold Loop.turns
    split
    · exact (h.leads (h.watches htool).steps_turn).trans ih
    · exact h.leads .refl

theorem Reached.settle (h : P.Reached (fun s => ¬s.Broken) s) (htool : P.LeavesAlone) :
    P.Leads s (loop.settle s) := h.turns htool (loop.patience s)

theorem Reached.passing (h : P.Reached (fun s => ¬s.Broken) s) (htool : P.LeavesAlone)
    (moment n : Nat) : P.Leads s (loop.passing moment n s) := by
  induction n generalizing s with
  | zero => exact h.leads (.single (.tick moment))
  | succ n ih =>
    unfold Loop.passing
    split
    · rename_i due _
      split
      · have hdue : P.Leads s (loop.atTime due s) := h.leads (.single (.tick due))
        have hsettled := hdue.trans fun hreached => hreached.settle htool
        exact hsettled.trans ih
      · exact h.leads (.single (.tick moment))
    · exact h.leads (.single (.tick moment))

/-- **Time may pass while the loop runs**: unless something may go wrong, all that comes of a
session that watches is reached by its steps. -/
theorem Reached.advance (h : P.Reached (fun s => ¬s.Broken) s) (htool : P.LeavesAlone)
    (moment : Nat) : P.Leads s (loop.advance moment s) :=
  (h.settle htool).trans fun hreached => hreached.passing htool moment _

end Watched

end ProbeKit
