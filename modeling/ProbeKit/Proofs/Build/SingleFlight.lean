import ProbeKit.Proofs.Build.Waiters

/-!
# One cycle at a time

Whatever happens on a line of builds, at most one cycle runs, the flags of the scheduler say whether
a run goes on, and everyone who waits for a run hears how that run ends (`Line.single_flight`).

All of it is read off the account of the history: an account says how many cycles run, and the line
encodes it.
-/

namespace ProbeKit

open Build

/-! ### What an account says -/

namespace Build.Account

variable {a b : Account} {e : Happening} {t : List Happening}

/-- How many cycles run. -/
def cycles : Account → Nat
  | .running _ => 1
  | _ => 0

theorem cycles_le_one (a : Account) : a.cycles ≤ 1 := by
  cases a <;> simp [cycles]

theorem Next.cycles_eq (h : a.Next e b) :
    b.cycles + [e].countP Happening.isEnd = a.cycles + [e].countP Happening.isBeginning := by
  cases h <;> rfl

/-- The cycles that run are those that have begun and have not ended. -/
theorem After.cycles_eq (h : a.After t b) :
    b.cycles + t.countP Happening.isEnd = a.cycles + t.countP Happening.isBeginning := by
  induction h with
  | nil a => rfl
  | @cons a b c e t hnext _ ih =>
    have hfirst := hnext.cycles_eq
    rw [← List.singleton_append, List.countP_append, List.countP_append]
    omega

/-- At every point of a history at most one cycle runs. -/
theorem After.at_most_one (h : Account.After (.rest none) t b) {x : List Happening} (hx : x <+: t) :
    x.countP Happening.isEnd ≤ x.countP Happening.isBeginning ∧
      x.countP Happening.isBeginning ≤ x.countP Happening.isEnd + 1 := by
  obtain ⟨y, rfl⟩ := hx
  obtain ⟨a, ha, -⟩ := after_append.1 h
  have hcount := ha.cycles_eq
  have hbound := a.cycles_le_one
  have hzero : (Account.rest none).cycles = 0 := rfl
  omega

/-- After the end of a run nothing is left open. -/
theorem After.eq_rest_of_over {outcome : Except Fault Unit}
    (h : a.After (t ++ [.runOver outcome]) b) : b = .rest (some outcome) := by
  obtain ⟨c, -, hlast⟩ := after_append.1 h
  obtain ⟨d, hnext, hnil⟩ := after_cons.1 hlast
  cases hnil
  cases hnext <;> rfl

end Build.Account

namespace Line

variable {l l' l₁ : Line} {t u : List Happening} {n : Nat} {a : Account}

/-! ### What a line makes of it -/

theorem Encodes.building_iff (h : Encodes a l) :
    l.scheduler.building = true ↔ l.scheduler.run = .pending := by
  cases h with
  | started building queued run gate work => exact iff_of_true building run
  | running building queued run cycle => exact iff_of_true building run
  | @rest _ last building queued run gate work =>
    rw [building, run]
    cases last <;> simp

theorem Encodes.building_of_queued (h : Encodes a l) (hqueued : l.scheduler.queued = true) :
    l.scheduler.building = true := by
  cases h with
  | started building queued run gate work => exact building
  | running building queued run cycle => exact building
  | rest building queued run gate work => rw [queued] at hqueued; cases hqueued

/-- Once a run has ended neither flag is set. -/
theorem Encodes.flags_of_ended (h : Encodes a l) {outcome : Except Fault Unit}
    (hrun : l.scheduler.run = .ended outcome) :
    l.scheduler.building = false ∧ l.scheduler.queued = false := by
  cases h with
  | rest building queued run gate work => exact ⟨building, queued⟩
  | started building queued run gate work => rw [run] at hrun; cases hrun
  | running building queued run cycle => rw [run] at hrun; cases hrun

theorem request_started (l : Line) : l.request.1 = !l.scheduler.building := by
  cases hbuilding : l.scheduler.building with
  | true =>
    obtain ⟨records, hrequest⟩ := request_of_building hbuilding
    rw [hrequest]
    rfl
  | false =>
    obtain ⟨records, hrequest⟩ := request_of_rest hbuilding
    rw [hrequest]
    rfl

/-! ### The cycles that are counted -/

theorem cyclesRun_perform (l : Line) (job : LineJob) :
    (l.perform job).scheduler.cyclesRun =
      l.scheduler.cyclesRun + (l.happenings job).countP Happening.isBeginning := by
  cases job with
  | beginRun => rfl
  | tell waiter outcome => rfl
  | beginWait waiter =>
    cases hrun : l.scheduler.run with
    | none => rw [perform_beginWait_of_none hrun]; rfl
    | pending => rw [perform_beginWait_of_pending hrun]; rfl
    | ended outcome => rw [perform_beginWait_of_ended hrun]; rfl
  | cycleEnded outcome =>
    unfold perform happenings Scheduler.endCycle Scheduler.finish
    cases outcome with
    | error f => rfl
    | ok _ =>
      cases l.scheduler.queued with
      | true => rfl
      | false => rfl

theorem cyclesRun_request (l : Line) :
    l.request.2.scheduler.cyclesRun = l.scheduler.cyclesRun := by
  cases hbuilding : l.scheduler.building with
  | true =>
    obtain ⟨records, hrequest⟩ := request_of_building hbuilding
    rw [hrequest]
  | false =>
    obtain ⟨records, hrequest⟩ := request_of_rest hbuilding
    rw [hrequest]

/-- Every cycle that begins is counted. -/
theorem Steps.cyclesRun_eq (h : Steps l t l') :
    l'.scheduler.cyclesRun = l.scheduler.cyclesRun + t.countP Happening.isBeginning := by
  induction h with
  | refl => rfl
  | @tail t u l' l'' _ hstep ih =>
    have hlast : l''.scheduler.cyclesRun =
        l'.scheduler.cyclesRun + u.countP Happening.isBeginning := by
      cases hstep with
      | request => exact cyclesRun_request l'
      | wait => rfl
      | finish outcome =>
        unfold endCycle
        cases l'.gate with
        | shut => rfl
        | waiting => rfl
      | @perform before after job hready =>
        exact cyclesRun_perform { l' with ready := before ++ after } job
    rw [List.countP_append]
    omega

/-! ### The main result -/

/-- **One cycle at a time, and flags that say so.**  In every state that requests, waiters, turns of
the loop and the ends of cycles lead to, at most one cycle runs and it is counted; `building` says
whether a run goes on and `queued` implies it; a request starts a run unless one goes on; a run that
has ended leaves no flag, and everyone who begins to wait hears how that run ends which goes on then,
one turn later at most. -/
theorem single_flight (h : Steps {} t l) :
    (l.scheduler.cyclesRun = t.countP Happening.isBeginning ∧
      ∀ x, x <+: t → x.countP Happening.isEnd ≤ x.countP Happening.isBeginning ∧
        x.countP Happening.isBeginning ≤ x.countP Happening.isEnd + 1) ∧
    (l.scheduler.building = true ↔ l.scheduler.run = .pending) ∧
    (l.scheduler.queued = true → l.scheduler.building = true) ∧
    (l.request.1 = true ↔ l.scheduler.building = false) ∧
    (∀ x outcome, t = x ++ [.runOver outcome] → l.scheduler.run = .ended outcome) ∧
    (∀ outcome, l.scheduler.run = .ended outcome →
      l.scheduler.building = false ∧ l.scheduler.queued = false) ∧
    ∀ n l₁ u l', Begins n l l₁ → Steps l₁ u l' →
      (∀ outcome, l'.waiters[n]? = some (some outcome) →
        awaited? l.scheduler.run u = some outcome) ∧
      ∀ outcome, awaited? l.scheduler.run u = some outcome →
        l'.turn.waiters[n]? = some (some outcome) := by
  -- The history leaves an account, and the account says what the flags are.
  obtain ⟨a, hafter, ha⟩ := h.exists_account
  refine ⟨⟨?_, fun x hx => hafter.at_most_one hx⟩, ha.building_iff, ha.building_of_queued, ?_,
    fun x outcome ht => ?_, fun outcome hrun => ha.flags_of_ended hrun,
    fun n l₁ u l' hbegins hsteps => ?_⟩
  · have hcount := h.cyclesRun_eq
    rw [Nat.zero_add] at hcount
    exact hcount
  · rw [request_started]
    cases l.scheduler.building <;> simp
  · subst ht
    cases hafter.eq_rest_of_over
    cases ha with
    | rest building queued run gate work => exact run
  · have hawaits := h.awaits hbegins hsteps
    have hall : Steps {} (t ++ [] ++ u) l' := (Steps.tail h hbegins.step).trans hsteps
    have horderly := hall.orderly orderly_start
    refine ⟨fun outcome htold => hawaits.eq_of_told horderly htold, fun outcome hknown => ?_⟩
    rw [hknown] at hawaits
    exact hawaits.turn horderly

/-- A line where a build is asked for and someone is to wait for it. -/
def asked : Line := Line.request {} |>.2.addWaiter

theorem steps_asked : Steps {} [.requested true] asked := .tail (.tail .refl (.request _)) (.wait _)

/-- That line when the one who is to wait does. -/
def awaited : Line := { asked with ready := [.beginRun] }.perform (.beginWait 0)

/-- A build is asked for, its only cycle fails, and that is what the one who waits for it hears. -/
theorem told_of_failed_make : ∃ t l, Steps {} t l ∧
    l.scheduler.run = .ended (.error (.build ["make"] 2)) ∧
    l.scheduler.building = false ∧ l.scheduler.queued = false ∧ l.request.1 = true ∧
    l.turn.waiters[0]? = some (some (.error (.build ["make"] 2))) := by
  have hbegins : Begins 0 asked awaited := @Begins.perform 0 asked [.beginRun] [] rfl
  have hbegun := (Steps.refl (l := awaited)).perform rfl
  have hsteps := (hbegun.finish (.error (.build ["make"] 2))).perform rfl
  have hall := (Steps.tail steps_asked hbegins.step).trans hsteps
  obtain ⟨-, -, -, hrequest, hover, hflags, -⟩ := single_flight hall
  obtain ⟨-, -, -, -, -, -, hwaiters⟩ := single_flight steps_asked
  have hrun := hover [.requested true, .began, .ended _] _ rfl
  obtain ⟨hbuilding, hqueued⟩ := hflags _ hrun
  exact ⟨_, _, hall, hrun, hbuilding, hqueued, hrequest.2 hbuilding,
    (hwaiters 0 _ _ _ hbegins hsteps).2 _ rfl⟩

end Line

end ProbeKit
