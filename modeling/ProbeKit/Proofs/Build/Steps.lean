import ProbeKit.Build.Line

/-!
# What happens on a line of builds

A line goes on step by step: someone asks for a build or begins to wait, the cycle that runs ends, or
the loop does one thing that is ready.  `Line.Steps` collects what happens on the way: requests, and
the beginnings and ends of cycles and of runs.

An `Account` is what such a history leaves open, and `Account.Next` are the only ways in which a
history goes on.  Main statement: the flags of the scheduler always encode the account of the history
so far (`Line.Steps.exists_account`).
-/

namespace ProbeKit

namespace Build

/-! ### Histories -/

/-- What can be told of a line from outside. -/
inductive Happening where
  /-- A build is asked for; the flag says whether that starts a run. -/
  | requested (started : Bool)
  /-- A cycle begins. -/
  | began
  /-- A cycle ends. -/
  | ended (outcome : Except Fault Unit)
  /-- A run ends. -/
  | runOver (outcome : Except Fault Unit)

namespace Happening

/-- Whether a build is asked for. -/
def isRequest : Happening → Bool
  | .requested _ => true
  | _ => false

/-- Whether a cycle begins. -/
def isBeginning : Happening → Bool
  | .began => true
  | _ => false

/-- Whether a cycle ends. -/
def isEnd : Happening → Bool
  | .ended _ => true
  | _ => false

/-- Whether requests count for another cycle from here on: a run has started, or a cycle has
ended. -/
def opens : Happening → Bool
  | .requested started => started
  | .ended _ => true
  | _ => false

end Happening

/-- What a history leaves open. -/
inductive Account where
  /-- Nothing, since the last run has ended or there was none. -/
  | rest (last : Option (Except Fault Unit))
  /-- A run has started and is to begin its first cycle.  So many requests came since. -/
  | started (requests : Nat)
  /-- A cycle runs.  So many requests came since the run started or the cycle before ended. -/
  | running (requests : Nat)
  /-- A cycle has ended.  So many requests came until then. -/
  | ended (outcome : Except Fault Unit) (requests : Nat)

namespace Account

/-- How a history goes on. -/
inductive Next : Account → Happening → Account → Prop where
  | start {last : Option (Except Fault Unit)} : Next (.rest last) (.requested true) (.started 0)
  | ask {n : Nat} : Next (.started n) (.requested false) (.started (n + 1))
  | begin {n : Nat} : Next (.started n) .began (.running n)
  | askAgain {n : Nat} : Next (.running n) (.requested false) (.running (n + 1))
  | finish {n : Nat} (outcome : Except Fault Unit) :
      Next (.running n) (.ended outcome) (.ended outcome n)
  | again {n : Nat} : Next (.ended (.ok ()) (n + 1)) .began (.running 0)
  | settle : Next (.ended (.ok ()) 0) (.runOver (.ok ())) (.rest (some (.ok ())))
  | failed {n : Nat} (f : Fault) :
      Next (.ended (.error f) n) (.runOver (.error f)) (.rest (some (.error f)))

/-- What a history makes of an account. -/
inductive After : Account → List Happening → Account → Prop where
  | nil (a : Account) : After a [] a
  | cons {a b c : Account} {e : Happening} {t : List Happening} (hnext : Next a e b)
      (hrest : After b t c) : After a (e :: t) c

variable {a b c : Account} {e : Happening} {t u : List Happening}

theorem Next.after (h : a.Next e b) : a.After [e] b := .cons h (.nil b)

theorem After.append (h : a.After t b) (h' : b.After u c) : a.After (t ++ u) c := by
  induction h with
  | nil a => exact h'
  | cons hnext _ ih => exact .cons hnext (ih h')

theorem after_append : a.After (t ++ u) c ↔ ∃ b, a.After t b ∧ b.After u c := by
  constructor
  · intro h
    induction t generalizing a with
    | nil => exact ⟨a, .nil a, h⟩
    | cons e t ih =>
      cases h with
      | cons hnext hrest =>
        obtain ⟨b, hb, hc⟩ := ih hrest
        exact ⟨b, .cons hnext hb, hc⟩
  · rintro ⟨b, hb, hc⟩
    exact hb.append hc

theorem after_cons : a.After (e :: t) c ↔ ∃ b, a.Next e b ∧ b.After t c := by
  constructor
  · intro h
    cases h with
    | cons hnext hrest => exact ⟨_, hnext, hrest⟩
  · rintro ⟨b, hnext, hrest⟩
    exact .cons hnext hrest

end Account

/-- Whether something that is ready is part of a run. -/
def LineJob.isWork : LineJob → Bool
  | .beginRun | .cycleEnded _ => true
  | .beginWait _ | .tell _ _ => false

end Build

open Build

namespace Line

/-- What happens when the loop does one thing. -/
def happenings (l : Line) : LineJob → List Happening
  | .beginRun => [.began]
  | .cycleEnded outcome =>
    match (l.scheduler.endCycle outcome).1 with
    | .again => [.ended outcome, .began]
    | .over _ => [.ended outcome, .runOver outcome]
  | .beginWait _ | .tell _ _ => []

/-- A step of a line.  What is ready may go on in any order, so that in particular a cycle may end
before anything else happens. -/
inductive Step : Line → List Happening → Line → Prop where
  /-- Someone asks for a build. -/
  | request (l : Line) : Step l [.requested l.request.1] l.request.2
  /-- Someone is to wait. -/
  | wait (l : Line) : Step l [] l.addWaiter
  /-- The cycle that runs comes to its end, which the loop has yet to notice. -/
  | finish (l : Line) (outcome : Except Fault Unit) : Step l [] (l.endCycle outcome).2
  /-- The loop does something that is ready. -/
  | perform {l : Line} {before after : List LineJob} {job : LineJob}
      (hready : l.ready = before ++ job :: after) :
      Step l (l.happenings job) ({ l with ready := before ++ after }.perform job)

/-- Some steps of a line, and what happens meanwhile. -/
inductive Steps (l : Line) : List Happening → Line → Prop where
  | refl : Steps l [] l
  | tail {t u : List Happening} {l' l'' : Line} (hsteps : Steps l t l') (hstep : Step l' u l'') :
      Steps l (t ++ u) l''

variable {l l' l'' : Line} {t u : List Happening} {job : LineJob}

/-! ### What is done -/

theorem request_of_building (h : l.scheduler.building = true) : ∃ records, l.request =
    (false, { l with
      scheduler := { l.scheduler with building := true, queued := true }
      journal := l.journal ++ records }) := by
  unfold request Scheduler.request
  rw [h]
  exact ⟨_, rfl⟩

theorem request_of_rest (h : l.scheduler.building = false) : ∃ records, l.request =
    (true, { l with
      scheduler := { l.scheduler with building := true, run := .pending, listeners := [] }
      ready := l.ready ++ [.beginRun], journal := l.journal ++ records }) := by
  unfold request Scheduler.request
  rw [h]
  exact ⟨_, rfl⟩

theorem perform_of_again {outcome : Except Fault Unit} {records : List Record}
    {scheduler : Scheduler Nat}
    (h : l.scheduler.endCycle outcome = (.again, records, scheduler)) :
    l.perform (.cycleEnded outcome) =
      { l with scheduler, gate := .waiting, journal := l.journal ++ records } := by
  unfold perform
  dsimp only
  rw [h]

theorem perform_of_over {outcome : Except Fault Unit} {listeners : List Nat} {records : List Record}
    {scheduler : Scheduler Nat}
    (h : l.scheduler.endCycle outcome = (.over listeners, records, scheduler)) :
    l.perform (.cycleEnded outcome) =
      { l with
        scheduler, journal := l.journal ++ records
        ready := l.ready ++ listeners.map fun waiter => .tell waiter outcome } := by
  unfold perform
  dsimp only
  rw [h]

/-- Whoever begins to wait for a run that goes on listens to it. -/
theorem perform_beginWait_of_pending (h : l.scheduler.run = .pending) (waiter : Nat) :
    l.perform (.beginWait waiter) = { l with
      scheduler := { l.scheduler with listeners := l.scheduler.listeners ++ [waiter] } } := by
  unfold perform Scheduler.listen
  dsimp only
  rw [h]

/-- Without a run there is nothing to wait for. -/
theorem perform_beginWait_of_none (h : l.scheduler.run = .none) (waiter : Nat) :
    l.perform (.beginWait waiter) = l.told waiter (.ok ()) := by
  unfold perform Scheduler.listen
  dsimp only
  rw [h]

theorem perform_beginWait_of_ended {outcome : Except Fault Unit}
    (h : l.scheduler.run = .ended outcome) (waiter : Nat) :
    l.perform (.beginWait waiter) = l.told waiter outcome := by
  unfold perform Scheduler.listen
  dsimp only
  rw [h]

theorem Steps.trans (h : Steps l t l') (h' : Steps l' u l'') : Steps l (t ++ u) l'' := by
  induction h' with
  | refl =>
    rw [List.append_nil]
    exact h
  | tail _ hstep ih =>
    rw [← List.append_assoc]
    exact .tail ih hstep

theorem Step.steps (h : Step l t l') : Steps l t l' := .tail .refl h

theorem Steps.finish (h : Steps l t l') (outcome : Except Fault Unit) :
    Steps l (t ++ []) (l'.endCycle outcome).2 := .tail h (.finish l' outcome)

/-- What is ready first is done. -/
theorem Steps.perform {rest : List LineJob} (h : Steps l t l') (hready : l'.ready = job :: rest) :
    Steps l (t ++ l'.happenings job) ({ l' with ready := rest }.perform job) :=
  .tail h (@Step.perform l' [] rest job hready)

/-! ### Turns -/

/-- Whatever else is ready, the same comes of one thing, and it only adds to what is ready. -/
theorem exists_perform (l : Line) (job : LineJob) :
    ∃ more, ∀ ready, { l with ready }.perform job =
      { l.perform job with ready := ready ++ more } := by
  cases job with
  | beginRun => exact ⟨[], fun ready => by rw [List.append_nil]; rfl⟩
  | tell waiter outcome => exact ⟨[], fun ready => by rw [List.append_nil]; rfl⟩
  | cycleEnded outcome =>
    rcases hend : l.scheduler.endCycle outcome with ⟨_ | listeners, records, scheduler⟩
    · refine ⟨[], fun ready => ?_⟩
      rw [perform_of_again hend, perform_of_again (l := { l with ready }) hend, List.append_nil]
    · refine ⟨listeners.map fun waiter => .tell waiter outcome, fun ready => ?_⟩
      rw [perform_of_over hend, perform_of_over (l := { l with ready }) hend]
  | beginWait waiter =>
    refine ⟨[], fun ready => ?_⟩
    rw [List.append_nil]
    cases hrun : l.scheduler.run with
    | none =>
      rw [perform_beginWait_of_none hrun, perform_beginWait_of_none (l := { l with ready }) hrun]
      rfl
    | pending =>
      rw [perform_beginWait_of_pending hrun,
        perform_beginWait_of_pending (l := { l with ready }) hrun]
    | ended outcome =>
      rw [perform_beginWait_of_ended hrun,
        perform_beginWait_of_ended (l := { l with ready }) hrun]
      rfl

/-- **A turn of the loop is made of steps.** -/
theorem exists_steps_turn (l : Line) : ∃ t, Steps l t l.turn := by
  -- The jobs that are left stand before those that came up meanwhile.
  have hjobs (jobs : List LineJob) : ∀ l : Line,
      ∃ t, Steps { l with ready := jobs ++ l.ready } t (jobs.foldl perform l) := by
    induction jobs with
    | nil =>
      intro l
      exact ⟨[], .refl⟩
    | cons job jobs ih =>
      intro l
      obtain ⟨more, hmore⟩ := exists_perform l job
      have hown : (l.perform job).ready = l.ready ++ more := congrArg ready (hmore l.ready)
      obtain ⟨t, ht⟩ := ih (l.perform job)
      have hfirst : Steps { l with ready := job :: jobs ++ l.ready } _
          ({ l with ready := jobs ++ l.ready }.perform job) := Steps.refl.perform rfl
      rw [hmore (jobs ++ l.ready), List.append_assoc, ← hown] at hfirst
      exact ⟨_, hfirst.trans ht⟩
  have hturn := hjobs l.ready { l with ready := [] }
  rw [List.append_nil] at hturn
  exact hturn

/-! ### Accounts of a line -/

/-- What is ready of a run. -/
def work (l : Line) : List LineJob := l.ready.filter LineJob.isWork

/-- A line is in the state that an account tells. -/
inductive Encodes : Account → Line → Prop where
  | rest {l : Line} {last : Option (Except Fault Unit)} (building : l.scheduler.building = false)
      (queued : l.scheduler.queued = false)
      (run : l.scheduler.run = last.elim .none .ended) (gate : l.gate = .shut) (work : l.work = []) :
      Encodes (.rest last) l
  | started {l : Line} {n : Nat} (building : l.scheduler.building = true)
      (queued : l.scheduler.queued = decide (0 < n)) (run : l.scheduler.run = .pending)
      (gate : l.gate = .shut) (work : l.work = [.beginRun]) : Encodes (.started n) l
  | running {l : Line} {n : Nat} (building : l.scheduler.building = true)
      (queued : l.scheduler.queued = decide (0 < n)) (run : l.scheduler.run = .pending)
      (cycle : l.gate = .waiting ∧ l.work = [] ∨
        l.gate = .shut ∧ ∃ outcome, l.work = [.cycleEnded outcome]) : Encodes (.running n) l

theorem encodes_start : Encodes (.rest none) {} := .rest rfl rfl rfl rfl rfl

theorem work_append (l : Line) (jobs : List LineJob) :
    work { l with ready := l.ready ++ jobs } = l.work ++ jobs.filter LineJob.isWork :=
  List.filter_append _ _

/-- An account says the same of lines that differ in other things only. -/
theorem Encodes.congr {a : Account} (h : Encodes a l)
    (hbuilding : l'.scheduler.building = l.scheduler.building)
    (hqueued : l'.scheduler.queued = l.scheduler.queued) (hrun : l'.scheduler.run = l.scheduler.run)
    (hgate : l'.gate = l.gate) (hwork : l'.work = l.work) : Encodes a l' := by
  cases h with
  | rest building queued run gate work =>
    exact .rest (hbuilding.trans building) (hqueued.trans queued) (hrun.trans run)
      (hgate.trans gate) (hwork.trans work)
  | started building queued run gate work =>
    exact .started (hbuilding.trans building) (hqueued.trans queued) (hrun.trans run)
      (hgate.trans gate) (hwork.trans work)
  | running building queued run cycle =>
    refine .running (hbuilding.trans building) (hqueued.trans queued) (hrun.trans run) ?_
    rw [hgate, hwork]
    exact cycle

/-- A request starts a run, or it is one more for the run that goes on. -/
theorem Encodes.request {a : Account} (h : Encodes a l) :
    ∃ b, a.After [.requested l.request.1] b ∧ Encodes b l.request.2 := by
  cases h with
  | rest building queued run gate work =>
    obtain ⟨records, hrequest⟩ := request_of_rest building
    rw [hrequest]
    refine ⟨.started 0, Account.Next.start.after, .started rfl queued rfl gate ?_⟩
    exact (work_append l _).trans (by rw [work]; rfl)
  | started building queued run gate work =>
    obtain ⟨records, hrequest⟩ := request_of_building building
    rw [hrequest]
    exact ⟨_, Account.Next.ask.after, .started rfl (by simp) run gate work⟩
  | running building queued run cycle =>
    obtain ⟨records, hrequest⟩ := request_of_building building
    rw [hrequest]
    exact ⟨_, Account.Next.askAgain.after, .running rfl (by simp) run cycle⟩

theorem Encodes.finish {a : Account} (h : Encodes a l) (outcome : Except Fault Unit) :
    Encodes a (l.endCycle outcome).2 := by
  unfold Line.endCycle
  rcases hgate : l.gate with _ | _
  · exact h
  cases h with
  | rest building queued run gate work => cases hgate.symm.trans gate
  | started building queued run gate work => cases hgate.symm.trans gate
  | running building queued run cycle =>
    rcases cycle with ⟨-, work⟩ | ⟨gate, -⟩
    · refine .running building queued run (.inr ⟨rfl, outcome, ?_⟩)
      exact (work_append l _).trans (by rw [work]; rfl)
    · cases hgate.symm.trans gate

section
variable {before after : List LineJob} (hready : l.ready = before ++ job :: after)
include hready

theorem work_of_isWork (hjob : job.isWork = true) {other : LineJob} (hwork : l.work = [other]) :
    job = other ∧ work { l with ready := before ++ after } = [] := by
  unfold work at hwork ⊢
  rw [hready, List.filter_append, List.filter_cons_of_pos hjob] at hwork
  obtain ⟨hbefore, hrest⟩ | ⟨-, hrest⟩ := List.append_eq_singleton_iff.1 hwork
  · obtain ⟨hsame, hafter⟩ := List.cons.inj hrest
    refine ⟨hsame, ?_⟩
    show (before ++ after).filter _ = []
    rw [List.filter_append, hbefore, hafter]
    rfl
  · cases hrest

theorem work_ne_nil_of_isWork (hjob : job.isWork = true) : l.work ≠ [] := by
  intro hwork
  have hmem : job ∈ l.work := by
    refine List.mem_filter.2 ⟨?_, hjob⟩
    rw [hready]
    simp
  rw [hwork] at hmem
  cases hmem

theorem work_of_not_isWork (hjob : job.isWork = false) :
    work { l with ready := before ++ after } = l.work := by
  unfold work
  rw [hready, List.filter_append, List.filter_append, List.filter_cons_of_neg (by simp [hjob])]

/-- The first cycle of a run begins. -/
theorem Encodes.beginRun {a : Account} (h : Encodes a l) (hjob : job = .beginRun) :
    ∃ b, a.After (l.happenings job) b ∧
      Encodes b ({ l with ready := before ++ after }.perform job) := by
  subst hjob
  cases h with
  | rest building queued run gate work => exact absurd work (work_ne_nil_of_isWork hready rfl)
  | started building queued run gate work =>
    obtain ⟨-, hrest⟩ := work_of_isWork hready rfl work
    exact ⟨_, Account.Next.begin.after, .running building queued run (.inl ⟨rfl, hrest⟩)⟩
  | running building queued run cycle =>
    rcases cycle with ⟨-, work⟩ | ⟨-, outcome, work⟩
    · exact absurd work (work_ne_nil_of_isWork hready rfl)
    · cases (work_of_isWork hready rfl work).1

/-- A cycle has ended, and another one follows it, or the run is over. -/
theorem Encodes.cycleEnded {a : Account} (h : Encodes a l) {outcome : Except Fault Unit}
    (hjob : job = .cycleEnded outcome) :
    ∃ b, a.After (l.happenings job) b ∧
      Encodes b ({ l with ready := before ++ after }.perform job) := by
  subst hjob
  cases h with
  | rest building queued run gate work => exact absurd work (work_ne_nil_of_isWork hready rfl)
  | started building queued run gate work => cases (work_of_isWork hready rfl work).1
  | @running _ n building queued run cycle =>
    rcases cycle with ⟨-, work⟩ | ⟨gate, outcome, work⟩
    · exact absurd work (work_ne_nil_of_isWork hready rfl)
    obtain ⟨hsame, hrest⟩ := work_of_isWork hready rfl work
    cases hsame
    have htells (listeners : List Nat) :
        (listeners.map fun waiter => LineJob.tell waiter outcome).filter LineJob.isWork = [] := by
      simp [LineJob.isWork]
    -- What remains ready has nothing to do with a run, and neither has what is told.
    have hover (listeners : List Nat) : (before ++ after ++
        listeners.map fun waiter => LineJob.tell waiter outcome).filter LineJob.isWork = [] := by
      rw [List.filter_append, htells, List.append_nil]
      exact hrest
    unfold happenings perform Scheduler.endCycle
    cases outcome with
    | error f =>
      exact ⟨_, .cons (.finish _) (Account.Next.failed f).after,
        .rest rfl rfl rfl gate (hover _)⟩
    | ok _ =>
      dsimp only
      rw [queued]
      cases n with
      | zero => exact ⟨_, .cons (.finish _) Account.Next.settle.after, .rest rfl rfl rfl gate (hover _)⟩
      | succ n =>
        rw [decide_eq_true (Nat.succ_pos n), if_pos rfl]
        exact ⟨_, .cons (.finish _) Account.Next.again.after,
          .running building rfl run (.inl ⟨rfl, hrest⟩)⟩

/-- Whoever begins to wait or is told changes nothing of the account. -/
theorem Encodes.perform_of_not_isWork {a : Account} (h : Encodes a l) (hjob : job.isWork = false) :
    Encodes a ({ l with ready := before ++ after }.perform job) := by
  have hwork := work_of_not_isWork hready hjob
  have hrest : Encodes a { l with ready := before ++ after } := h.congr rfl rfl rfl rfl hwork
  cases job with
  | beginRun => cases hjob
  | cycleEnded outcome => cases hjob
  | tell waiter outcome => exact hrest.congr rfl rfl rfl rfl rfl
  | beginWait waiter =>
    cases hrun : l.scheduler.run with
    | none =>
      rw [perform_beginWait_of_none (l := { l with ready := before ++ after }) hrun]
      exact hrest.congr rfl rfl rfl rfl rfl
    | pending =>
      rw [perform_beginWait_of_pending (l := { l with ready := before ++ after }) hrun]
      exact hrest.congr rfl rfl rfl rfl rfl
    | ended outcome =>
      rw [perform_beginWait_of_ended (l := { l with ready := before ++ after }) hrun]
      exact hrest.congr rfl rfl rfl rfl rfl

end

/-- **A step goes on with the history**, and the line encodes what comes of it. -/
theorem Encodes.step {a : Account} (h : Encodes a l) (hstep : Step l t l') :
    ∃ b, a.After t b ∧ Encodes b l' := by
  cases hstep with
  | request => exact h.request
  | wait => exact ⟨a, .nil a, h.congr rfl rfl rfl rfl ((work_append l _).trans (List.append_nil _))⟩
  | finish outcome => exact ⟨a, .nil a, h.finish outcome⟩
  | @perform before after job hready =>
    cases job with
    | beginRun => exact h.beginRun hready rfl
    | cycleEnded outcome => exact h.cycleEnded hready rfl
    | beginWait waiter => exact ⟨a, .nil a, h.perform_of_not_isWork hready rfl⟩
    | tell waiter outcome => exact ⟨a, .nil a, h.perform_of_not_isWork hready rfl⟩

/-- **The state of a line encodes the account of its history**, whatever steps it took. -/
theorem Steps.exists_account (h : Steps {} t l) :
    ∃ a, Account.After (.rest none) t a ∧ Encodes a l := by
  induction h with
  | refl => exact ⟨_, .nil _, encodes_start⟩
  | tail _ hstep ih =>
    obtain ⟨a, hbefore, ha⟩ := ih
    obtain ⟨b, hstep, hb⟩ := ha.step hstep
    exact ⟨b, hbefore.append hstep, hb⟩

end Line

end ProbeKit
