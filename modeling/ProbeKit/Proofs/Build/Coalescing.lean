import ProbeKit.Proofs.Build.SingleFlight

/-!
# Coalesced builds

Requests that arrive while a cycle is outstanding ask for one more cycle, however many they are.  The
main result (`Line.coalesces`) says so of every history of a line: whoever waits without hearing of a
failure has got every build asked for before; exactly one cycle follows directly on a cycle during
which builds were asked for, and none on another one; there are no more cycles than requests; and a
cycle that fails has no successor until the next request.

What carries it is the number of cycles that an account owes without a further request
(`Account.due`).
-/

namespace ProbeKit

open Build

namespace Build

variable {t u : List Happening}

/-- In a history a cycle begins that ends well. -/
def HasCycle (t : List Happening) : Prop :=
  ∃ x w y, t = x ++ .began :: (w ++ .ended (.ok ()) :: y) ∧ ∀ e ∈ w, e.isRequest = true

theorem HasCycle.append (h : HasCycle t) (u : List Happening) : HasCycle (t ++ u) := by
  obtain ⟨x, w, y, rfl, hw⟩ := h
  exact ⟨x, w, y ++ u, by simp, hw⟩

theorem HasCycle.cons (h : HasCycle t) (e : Happening) : HasCycle (e :: t) := by
  obtain ⟨x, w, y, rfl, hw⟩ := h
  exact ⟨e :: x, w, y, rfl, hw⟩

/-- No cycle begins before someone asks for a build. -/
def Quiet (t : List Happening) : Prop :=
  ∀ x y, t = x ++ .began :: y → ∃ e ∈ x, e.isRequest = true

namespace Account

variable {a b : Account} {e : Happening}

/-! ### The cycles that are due -/

/-- How many cycles begin without a further request, unless one fails. -/
def due : Account → Nat
  | .rest _ => 0
  | .started n => 1 + min n 1
  | .running n => min n 1
  | .ended (.ok _) n => min n 1
  | .ended (.error _) _ => 0

/-- A cycle that begins was due, and only a request makes another one due. -/
theorem Next.due (h : a.Next e b) :
    [e].countP Happening.isBeginning + b.due ≤ a.due + [e].countP Happening.isRequest := by
  cases h with
  | finish outcome => cases outcome <;> simp [Account.due, Happening.isBeginning]
  | @ask n =>
    have hbound : 0 + (1 + min (n + 1) 1) ≤ 1 + min n 1 + 1 := by omega
    exact hbound
  | @askAgain n =>
    have hbound : 0 + min (n + 1) 1 ≤ min n 1 + 1 := by omega
    exact hbound
  | _ => simp [Account.due, Happening.isBeginning, Happening.isRequest]

theorem After.due (h : a.After t b) :
    t.countP Happening.isBeginning + b.due ≤ a.due + t.countP Happening.isRequest := by
  induction h with
  | nil a => simp
  | @cons a b c e t hnext _ ih =>
    have hfirst := hnext.due
    rw [← List.singleton_append, List.countP_append, List.countP_append]
    omega

/-- Where no cycle is due none begins before a request. -/
theorem After.quiet (h : a.After t b) (hdue : a.due = 0) : Quiet t := by
  rintro x y rfl
  rw [← List.singleton_append, ← List.append_assoc] at h
  obtain ⟨c, hc, -⟩ := after_append.1 h
  have hcount := hc.due
  simp only [List.countP_append, hdue] at hcount
  have hbegan : [Happening.began].countP Happening.isBeginning = 1 := rfl
  have hnone : [Happening.began].countP Happening.isRequest = 0 := rfl
  exact List.countP_pos_iff.1 (by omega)

/-- At rest nothing happens before a request. -/
theorem After.of_rest {last : Option (Except Fault Unit)} (h : Account.After (.rest last) t b)
    (ht : ∀ e ∈ t, e.isRequest = false) : b = .rest last := by
  cases h with
  | nil => rfl
  | cons hnext hrest =>
    cases hnext
    cases ht _ List.mem_cons_self

/-! ### Requests that are served -/

/-- Whether a build may have been asked for that has not begun. -/
def Owes : Account → Prop
  | .rest last => ∃ f, last = some (.error f)
  | .started _ => True
  | .running n => 0 < n
  | .ended (.ok _) n => 0 < n
  | .ended (.error _) _ => True

theorem Next.owes {started : Bool} (h : a.Next (.requested started) b) : b.Owes := by
  cases h with
  | start => trivial
  | ask => trivial
  | askAgain => exact Nat.succ_pos _

/-- On the way to a run that ends well, every build that is owed comes to be: a cycle that runs with
requests behind it is followed by another one, and so is one that fails. -/
theorem After.hasCycle (h : a.After t b) (hb : b = .rest (some (.ok ()))) :
    (a.Owes → HasCycle t) ∧ ∀ n, a = .running n → HasCycle (.began :: t) := by
  -- From the last step backwards: a debt after a step was there before it, or the step has paid it.
  induction h with
  | nil a =>
    subst hb
    refine ⟨fun howes => ?_, fun n hn => by cases hn⟩
    obtain ⟨f, hf⟩ := howes
    cases hf
  | cons hnext hrest ih =>
    obtain ⟨howed, hrunning⟩ := ih hb
    cases hnext with
    | start => exact ⟨fun _ => (howed trivial).cons _, fun n hn => by cases hn⟩
    | ask => exact ⟨fun _ => (howed trivial).cons _, fun n hn => by cases hn⟩
    | begin => exact ⟨fun _ => hrunning _ rfl, fun n hn => by cases hn⟩
    | askAgain =>
      have hlater := (howed (Nat.succ_pos _)).cons (.requested false)
      exact ⟨fun _ => hlater, fun n hn => hlater.cons _⟩
    | finish outcome =>
      cases outcome with
      | error f => exact ⟨fun _ => (howed trivial).cons _, fun n hn => ((howed trivial).cons _).cons _⟩
      | ok _ =>
        refine ⟨fun howes => (howed howes).cons _, fun n hn => ?_⟩
        exact ⟨[], [], _, rfl, fun e he => by cases he⟩
    | again => exact ⟨fun _ => hrunning _ rfl, fun n hn => by cases hn⟩
    | settle => exact ⟨fun howes => absurd howes (Nat.lt_irrefl 0), fun n hn => by cases hn⟩
    | failed f => exact ⟨fun _ => (howed ⟨f, rfl⟩).cons _, fun n hn => by cases hn⟩

/-- When a run ends well, a cycle has begun behind every request and ended well. -/
theorem After.hasCycle_of_requested {x y : List Happening} {started : Bool}
    (h : a.After (x ++ .requested started :: y) (.rest (some (.ok ())))) : HasCycle y := by
  obtain ⟨b, -, hb⟩ := after_append.1 h
  obtain ⟨c, hnext, hc⟩ := after_cons.1 hb
  exact (hc.hasCycle rfl).1 hnext.owes

/-- There was no run only if nothing has happened. -/
theorem After.eq_nil (h : a.After t b) (hb : b = .rest none) : t = [] := by
  induction h with
  | nil a => rfl
  | cons hnext hrest ih =>
    obtain rfl := ih hb
    cases hrest
    subst hb
    cases hnext

/-! ### Requests while a cycle is outstanding -/

/-- How many builds were asked for since the run started or the last cycle ended. -/
def asked : Account → Nat
  | .started n | .running n => n
  | .rest _ | .ended _ _ => 0

theorem Next.asked_of_opens (h : a.Next e b) (he : e.opens = true) : b.asked = 0 := by
  cases h with
  | start => rfl
  | finish outcome => rfl
  | _ => cases he

theorem After.asked (h : a.After t b) (ht : ∀ e ∈ t, e.opens = false) :
    b.asked = a.asked + t.countP Happening.isRequest := by
  induction h with
  | nil a => rfl
  | @cons a b c e t hnext hrest ih =>
    have hlater := ih fun e he => ht e (List.mem_cons_of_mem _ he)
    have hfirst : b.asked = a.asked + [e].countP Happening.isRequest := by
      have hopens := ht e List.mem_cons_self
      cases hnext with
      | start => cases hopens
      | finish outcome => cases hopens
      | _ => rfl
    rw [← List.singleton_append, List.countP_append]
    omega

/-- The account of a cycle that ends tells the requests since it was opened. -/
theorem After.ended {x window : List Happening} {opening : Happening} {outcome : Except Fault Unit}
    (h : a.After (x ++ opening :: (window ++ [.ended outcome])) b) (hopens : opening.opens = true)
    (hwindow : ∀ e ∈ window, e.opens = false) :
    b = .ended outcome (window.countP Happening.isRequest) := by
  obtain ⟨c, -, hc⟩ := after_append.1 h
  obtain ⟨d, hnext, hd⟩ := after_cons.1 hc
  obtain ⟨r, hr, hlast⟩ := after_append.1 hd
  obtain ⟨s, hend, hnil⟩ := after_cons.1 hlast
  cases hnil
  have hasked := hr.asked hwindow
  rw [hnext.asked_of_opens hopens, Nat.zero_add] at hasked
  cases hend with
  | @finish n =>
    rw [← hasked]
    rfl

end Account

end Build

namespace Line

variable {l l' l₁ : Line} {t u : List Happening} {n : Nat} {a : Account}

theorem Encodes.eq_rest (h : Encodes a l) (hrun : l.scheduler.run ≠ .pending) :
    ∃ last, a = .rest last ∧ l.scheduler.run = last.elim .none .ended := by
  cases h with
  | rest building queued run gate work => exact ⟨_, rfl, run⟩
  | started building queued run gate work => exact absurd run hrun
  | running building queued run cycle => exact absurd run hrun

/-- Whoever waits without hearing of a failure has got every build that was asked for before. -/
theorem Steps.hasCycle {x y : List Happening} {started : Bool} (h : Steps {} t l)
    (hsteps : Steps {} (t ++ u) l') (hknown : awaited? l.scheduler.run u = some (.ok ()))
    (ht : t = x ++ .requested started :: y) : HasCycle (y ++ u) := by
  obtain ⟨a, hafter, ha⟩ := h.exists_account
  -- The wait is for the run that goes on as it begins, or for one that is over by then.
  cases hrun : l.scheduler.run with
  | none =>
    obtain ⟨last, rfl, hlast⟩ := ha.eq_rest (by simp [hrun])
    rw [hrun] at hlast
    cases last with
    | none =>
      rw [hafter.eq_nil rfl] at ht
      simp at ht
    | some outcome => cases hlast
  | ended outcome =>
    rw [hrun] at hknown
    cases hknown
    obtain ⟨last, rfl, hlast⟩ := ha.eq_rest (by simp [hrun])
    rw [hrun] at hlast
    cases last with
    | none => cases hlast
    | some outcome =>
      cases hlast
      rw [ht] at hafter
      exact hafter.hasCycle_of_requested.append u
  | pending =>
    rw [hrun] at hknown
    obtain ⟨before, e, after, rfl, he, -⟩ := List.findSome?_eq_some_iff.1 hknown
    cases e with
    | runOver outcome =>
      cases he
      obtain ⟨b, hb, -⟩ := hsteps.exists_account
      rw [← List.singleton_append, ← List.append_assoc, ← List.append_assoc] at hb
      obtain ⟨c, hc, -⟩ := Account.after_append.1 hb
      cases hc.eq_rest_of_over
      rw [ht, List.append_assoc, List.append_assoc, List.cons_append] at hc
      have hcycle := hc.hasCycle_of_requested.append after
      simpa using hcycle
    | requested started => cases he
    | began => cases he
    | ended outcome => cases he

/-- What follows on a cycle follows with its end. -/
theorem Steps.exists_cons {x q : List Happening} {outcome : Except Fault Unit}
    (h : Steps {} t l) (ht : t = x ++ .ended outcome :: q) :
    ∃ b c e q', Account.After (.rest none) (x ++ [.ended outcome]) b ∧ q = e :: q' ∧ b.Next e c ∧
      ∃ d, c.After q' d ∧ Encodes d l := by
  obtain ⟨d, hafter, hd⟩ := h.exists_account
  rw [ht, ← List.singleton_append, ← List.append_assoc] at hafter
  obtain ⟨b, hb, hq⟩ := Account.after_append.1 hafter
  cases hq with
  | cons hnext hrest => exact ⟨_, _, _, _, hb, rfl, hnext, _, hrest, hd⟩
  | nil =>
    -- No line is in the midst of that.
    obtain ⟨c, -, hlast⟩ := Account.after_append.1 hb
    obtain ⟨b, hend, hnil⟩ := Account.after_cons.1 hlast
    cases hnil
    cases hend
    cases hd

theorem Encodes.label_of_rest {last : Option (Except Fault Unit)} (h : Encodes (.rest last) l) :
    l.scheduler.label = "idle" := by
  cases h with
  | rest building queued run gate work =>
    unfold Scheduler.label
    rw [building]
    rfl

/-- What is no part of a run begins no cycle. -/
theorem cyclesRun_foldl {jobs : List LineJob} (hjobs : ∀ job ∈ jobs, job.isWork = false) :
    (jobs.foldl perform l).scheduler.cyclesRun = l.scheduler.cyclesRun := by
  induction jobs generalizing l with
  | nil => rfl
  | cons job jobs ih =>
    have hnone : l.happenings job = [] := by
      cases job with
      | beginRun => cases hjobs _ List.mem_cons_self
      | cycleEnded outcome => cases hjobs _ List.mem_cons_self
      | beginWait waiter => rfl
      | tell waiter outcome => rfl
    have hfirst := cyclesRun_perform l job
    rw [hnone] at hfirst
    exact (ih fun job hjob => hjobs job (List.mem_cons_of_mem _ hjob)).trans hfirst

/-- At rest a request starts a run, and the next turn of the loop begins its first cycle. -/
theorem Encodes.request_of_rest {last : Option (Except Fault Unit)} (h : Encodes (.rest last) l) :
    l.request.1 = true ∧
      l.request.2.turn.scheduler.cyclesRun = l.scheduler.cyclesRun + 1 := by
  cases h with
  | rest building queued run gate work =>
    obtain ⟨records, hrequest⟩ := Line.request_of_rest building
    rw [hrequest]
    refine ⟨rfl, ?_⟩
    unfold turn
    rw [List.foldl_append]
    have hjobs : ∀ job ∈ l.ready, job.isWork = false := by
      intro job hjob
      have hnot := List.filter_eq_nil_iff.1 work job hjob
      simpa using hnot
    exact congrArg (· + 1) (cyclesRun_foldl hjobs)

/-- **Every build asked for comes, and no other.**  In every history of a line:

* whoever waits without hearing of a failure has seen a cycle begin and end well behind every request
  from before the waiting began;
* after a cycle that ends well, one more cycle follows directly if builds were asked for since the run
  started or the cycle before ended, and no further one before the next request; if none was asked
  for, the run is over and no cycle begins before the next request;
* no more cycles begin than builds are asked for;
* after a cycle that fails the run is over, no cycle begins before the next request, and that one
  starts a new cycle. -/
theorem coalesces (h : Steps {} t l) :
    (∀ n l₁ u l', Begins n l l₁ → Steps l₁ u l' → l'.waiters[n]? = some (some (.ok ())) →
      ∀ x started y, t = x ++ .requested started :: y → HasCycle (y ++ u)) ∧
    (∀ x opening window q, t = x ++ opening :: (window ++ .ended (.ok ()) :: q) →
      opening.opens = true → (∀ e ∈ window, e.opens = false) →
      (1 ≤ window.countP Happening.isRequest → ∃ q', q = .began :: q' ∧ Quiet q') ∧
      (window.countP Happening.isRequest = 0 → ∃ q', q = .runOver (.ok ()) :: q' ∧ Quiet q' ∧
        ((∀ e ∈ q', e.isRequest = false) → l.scheduler.label = "idle"))) ∧
    l.scheduler.cyclesRun ≤ t.countP Happening.isRequest ∧
    ∀ x f q, t = x ++ .ended (.error f) :: q → ∃ q', q = .runOver (.error f) :: q' ∧ Quiet q' ∧
      ((∀ e ∈ q', e.isRequest = false) → l.scheduler.label = "idle" ∧ l.request.1 = true ∧
        l.request.2.turn.scheduler.cyclesRun = l.scheduler.cyclesRun + 1) := by
  obtain ⟨a, hafter, ha⟩ := h.exists_account
  refine ⟨fun n l₁ u l' hbegins hsteps htold x started y ht => ?_,
    fun x opening window q ht hopens hwindow => ?_, ?_, fun x f q ht => ?_⟩
  · have hall : Steps {} (t ++ [] ++ u) l' := (Steps.tail h hbegins.step).trans hsteps
    have hknown := (h.awaits hbegins hsteps).eq_of_told (hall.orderly orderly_start) htold
    rw [List.append_nil] at hall
    exact h.hasCycle hall hknown ht
  · -- What follows the end of a cycle is read off the account that the history leaves there.
    have hsplit : t = (x ++ opening :: window) ++ .ended (.ok ()) :: q := by simp [ht]
    obtain ⟨b, c, e, q', hb, rfl, hnext, d, hd, hencodes⟩ := h.exists_cons hsplit
    rw [List.append_assoc, List.cons_append] at hb
    have hended := hb.ended hopens hwindow
    generalize window.countP Happening.isRequest = asked at hended
    subst hended
    cases hnext with
    | again => exact ⟨fun _ => ⟨q', rfl, hd.quiet rfl⟩, fun hnone => by cases hnone⟩
    | settle =>
      refine ⟨fun hsome => absurd hsome (Nat.not_succ_le_zero 0), fun _ => ⟨q', rfl, hd.quiet rfl, ?_⟩⟩
      intro hq
      cases hd.of_rest hq
      exact hencodes.label_of_rest
  · have hcount := h.cyclesRun_eq
    have hbound := hafter.due
    have hzero : (Account.rest none).due = 0 := rfl
    have hstart : (scheduler {}).cyclesRun = 0 := rfl
    omega
  · obtain ⟨b, c, e, q', hb, rfl, hnext, d, hd, hencodes⟩ := h.exists_cons ht
    obtain ⟨r, -, hlast⟩ := Account.after_append.1 hb
    obtain ⟨s, hend, hnil⟩ := Account.after_cons.1 hlast
    cases hnil
    cases hend
    cases hnext
    refine ⟨q', rfl, hd.quiet rfl, fun hq => ?_⟩
    cases hd.of_rest hq
    exact ⟨hencodes.label_of_rest, hencodes.request_of_rest⟩

/-- A cycle runs, two more builds are asked for, and someone is to wait. -/
def busy : Line :=
  { request {} |>.2 with ready := [] }.perform .beginRun |>.request.2.request.2.addWaiter

/-- That line when the one who is to wait does. -/
def busyAwaited : Line := { busy with ready := [] }.perform (.beginWait 0)

theorem steps_busy :
    Steps {} [.requested true, .began, .requested false, .requested false] busy := by
  have hbegun := (Steps.tail .refl (.request {})).perform rfl
  exact .tail (.tail (.tail hbegun (.request _)) (.request _)) (.wait _)

/-- Two builds asked for while a cycle runs make one more cycle, and the one who waits hears of its
end. -/
theorem coalesces_busy : ∃ l,
    Steps busy [.ended (.ok ()), .began, .ended (.ok ()), .runOver (.ok ())] l ∧
      l.waiters[0]? = some (some (.ok ())) ∧
      HasCycle [.ended (.ok ()), .began, .ended (.ok ()), .runOver (.ok ())] ∧
      l.scheduler.cyclesRun ≤ 3 ∧ l.scheduler.label = "idle" := by
  have hbegins : Begins 0 busy busyAwaited := @Begins.perform 0 busy [] [] rfl
  have hfirst := ((Steps.refl (l := busyAwaited)).finish (.ok ())).perform rfl
  have hsecond := (hfirst.finish (.ok ())).perform rfl
  have htold : Steps busyAwaited [.ended (.ok ()), .began, .ended (.ok ()), .runOver (.ok ())] _ :=
    hsecond.perform rfl
  have hsteps := hbegins.step.steps.trans htold
  have hall := steps_busy.trans hsteps
  obtain ⟨hserved, -⟩ := coalesces steps_busy
  obtain ⟨-, hwindows, hcycles, -⟩ := coalesces hall
  have hlater := hserved 0 _ _ _ hbegins htold rfl
    [.requested true, .began, .requested false] false [] rfl
  -- The second cycle ends a window without requests.
  obtain ⟨-, hidle⟩ := hwindows [.requested true, .began, .requested false, .requested false]
    (.ended (.ok ())) [.began] [.runOver (.ok ())] rfl rfl (by decide)
  obtain ⟨q, hq, -, hlabel⟩ := hidle rfl
  cases hq
  exact ⟨_, hsteps, rfl, hlater, hcycles, hlabel (fun e he => by cases he)⟩

end Line

end ProbeKit
