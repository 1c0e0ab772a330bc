import ProbeKit.Proofs.Build.Steps

/-!
# Waiting for builds

Everyone who waits is mentioned at one place only, until told (`Line.Orderly`): among what is ready,
or among the listeners of the scheduler.  So whoever listens to a run is told how that run ends and
nothing else (`Line.Steps.awaits`).
-/

namespace ProbeKit

open Build

/-- Who is to wait or to be told. -/
def Build.LineJob.waiter? : LineJob → Option Nat
  | .beginWait waiter | .tell waiter _ => some waiter
  | .beginRun | .cycleEnded _ => none

/-- How a run ends, if one does. -/
def Build.Happening.over? : Happening → Option (Except Fault Unit)
  | .runOver outcome => some outcome
  | _ => none

namespace Line

variable {l l' : Line} {t u : List Happening} {job : LineJob} {n : Nat}
  {outcome : Except Fault Unit}

/-- Who waits and has not been told. -/
def mentions (l : Line) : List Nat := l.ready.filterMap LineJob.waiter? ++ l.scheduler.listeners

/-- Everyone who waits is mentioned once, and not after being told. -/
structure Orderly (l : Line) : Prop where
  /-- No one is mentioned twice. -/
  nodup : l.mentions.Nodup
  /-- Whoever is mentioned has not been told. -/
  waiting : ∀ n ∈ l.mentions, l.waiters[n]? = some none

theorem Orderly.of_sublist (h : l.Orderly) (hsub : l'.mentions.Sublist l.mentions)
    (hwaiters : l'.waiters = l.waiters) : l'.Orderly := by
  refine ⟨h.nodup.sublist hsub, fun n hn => ?_⟩
  rw [hwaiters]
  exact h.waiting n (hsub.mem hn)

theorem Orderly.of_perm (h : l.Orderly) (hperm : l'.mentions.Perm l.mentions)
    (hwaiters : l'.waiters = l.waiters) : l'.Orderly := by
  refine ⟨hperm.nodup_iff.2 h.nodup, fun n hn => ?_⟩
  rw [hwaiters]
  exact h.waiting n (hperm.mem_iff.1 hn)

/-- Whoever is told is not mentioned any more. -/
theorem Orderly.told (h : l.Orderly) (hn : n ∉ l.mentions) (outcome : Except Fault Unit) :
    (l.told n outcome).Orderly := by
  refine ⟨h.nodup, fun k hk => ?_⟩
  have hne : n ≠ k := by
    rintro rfl
    exact hn hk
  show (l.waiters.set n (some outcome))[k]? = some none
  rw [List.getElem?_set_ne hne]
  exact h.waiting k hk

theorem Orderly.request (h : l.Orderly) : l.request.2.Orderly := by
  cases hbuilding : l.scheduler.building with
  | true =>
    obtain ⟨records, hrequest⟩ := request_of_building hbuilding
    rw [hrequest]
    exact h.of_sublist (.refl _) rfl
  | false =>
    obtain ⟨records, hrequest⟩ := request_of_rest hbuilding
    rw [hrequest]
    refine h.of_sublist ?_ rfl
    show ((l.ready ++ [LineJob.beginRun]).filterMap LineJob.waiter? ++ []).Sublist _
    rw [List.filterMap_append, List.append_nil, List.filterMap_cons_none rfl, List.filterMap_nil,
      List.append_nil]
    exact List.sublist_append_left _ _

theorem Orderly.addWaiter (h : l.Orderly) : l.addWaiter.Orderly := by
  have hfresh : l.waiters.length ∉ l.mentions := by
    intro hmem
    have hwaiting := h.waiting _ hmem
    rw [List.getElem?_eq_none (Nat.le_refl _)] at hwaiting
    cases hwaiting
  have hmentions : l.addWaiter.mentions.Perm (l.waiters.length :: l.mentions) := by
    show ((l.ready ++ [LineJob.beginWait l.waiters.length]).filterMap LineJob.waiter? ++
      l.scheduler.listeners).Perm _
    rw [List.filterMap_append, List.append_assoc]
    exact List.perm_middle
  refine ⟨hmentions.nodup_iff.2 (List.nodup_cons.2 ⟨hfresh, h.nodup⟩), fun n hn => ?_⟩
  show (l.waiters ++ [none])[n]? = some none
  rcases List.mem_cons.1 (hmentions.mem_iff.1 hn) with rfl | hn
  · exact List.getElem?_concat_length
  · have hwaiting := h.waiting n hn
    obtain ⟨hlt, -⟩ := List.getElem?_eq_some_iff.1 hwaiting
    rw [List.getElem?_append_left hlt]
    exact hwaiting

section
variable {before after : List LineJob} (hready : l.ready = before ++ job :: after)
include hready

/-- What is ready mentions at most one of those who wait, and what else is ready all others. -/
theorem mentions_perm_of_ready :
    l.mentions.Perm (job.waiter?.toList ++ mentions { l with ready := before ++ after }) := by
  unfold mentions
  rw [hready, List.filterMap_append, List.filterMap_append, List.filterMap_cons]
  cases job.waiter? with
  | none => exact .refl _
  | some n =>
    rw [List.append_assoc, List.append_assoc]
    exact List.perm_middle

/-- Without one thing that is ready a line is still orderly, and who was mentioned there is mentioned
nowhere else. -/
theorem Orderly.rest (h : l.Orderly) : Orderly { l with ready := before ++ after } ∧
    ∀ n, job.waiter? = some n →
      n ∉ mentions { l with ready := before ++ after } ∧ l.waiters[n]? = some none := by
  have hperm := mentions_perm_of_ready hready
  have hnodup := hperm.nodup_iff.1 h.nodup
  refine ⟨⟨(List.nodup_append.1 hnodup).2.1, fun k hk => ?_⟩, fun n hn => ?_⟩
  · exact h.waiting k (hperm.mem_iff.2 (List.mem_append_right _ hk))
  · rw [hn] at hperm hnodup
    exact ⟨(List.nodup_cons.1 hnodup).1, h.waiting n (hperm.mem_iff.2 List.mem_cons_self)⟩

end

/-- When a run is over its listeners are to be told, and no one else. -/
theorem mentions_of_over {listeners : List Nat} {records : List Record} {scheduler : Scheduler Nat}
    (hend : l.scheduler.endCycle outcome = (.over listeners, records, scheduler)) :
    mentions (l.perform (.cycleEnded outcome)) = l.mentions ∧
      listeners = l.scheduler.listeners ∧ scheduler.listeners = [] := by
  have hlisteners : listeners = l.scheduler.listeners ∧ scheduler.listeners = [] := by
    unfold Scheduler.endCycle Scheduler.finish at hend
    cases outcome with
    | error f =>
      cases hend
      exact ⟨rfl, rfl⟩
    | ok _ =>
      dsimp only at hend
      split at hend
      · cases hend
      · cases hend
        exact ⟨rfl, rfl⟩
  obtain ⟨rfl, hnone⟩ := hlisteners
  refine ⟨?_, rfl, hnone⟩
  rw [perform_of_over hend]
  show (l.ready ++ _).filterMap LineJob.waiter? ++ scheduler.listeners = _
  have htells : (l.scheduler.listeners.map fun waiter => LineJob.tell waiter outcome).filterMap
      LineJob.waiter? = l.scheduler.listeners := by
    rw [List.filterMap_map]
    exact List.filterMap_some
  rw [hnone, List.append_nil, List.filterMap_append, htells]
  rfl

/-- When one more cycle follows, those who listen go on listening. -/
theorem listeners_of_again {records : List Record} {scheduler : Scheduler Nat}
    (hend : l.scheduler.endCycle outcome = (.again, records, scheduler)) :
    scheduler.listeners = l.scheduler.listeners ∧ scheduler.run = l.scheduler.run := by
  unfold Scheduler.endCycle Scheduler.finish at hend
  cases outcome with
  | error f => cases hend
  | ok _ =>
    dsimp only at hend
    split at hend
    · cases hend
      exact ⟨rfl, rfl⟩
    · cases hend

/-- **Every step keeps a line orderly.** -/
theorem Orderly.step (h : l.Orderly) (hstep : Step l t l') : l'.Orderly := by
  -- A waiter is mentioned by what is ready and by the list of listeners, and by nothing else.
  cases hstep with
  | request => exact h.request
  | wait => exact h.addWaiter
  | finish outcome =>
    unfold endCycle
    cases l.gate with
    | shut => exact h
    | waiting =>
      refine h.of_sublist ?_ rfl
      show ((l.ready ++ [LineJob.cycleEnded outcome]).filterMap LineJob.waiter? ++ _).Sublist _
      rw [List.filterMap_append, List.filterMap_cons_none rfl, List.filterMap_nil, List.append_nil]
      exact .refl _
  | @perform before after job hready =>
    obtain ⟨hrest, hmine⟩ := h.rest hready
    cases job with
    | beginRun => exact hrest.of_sublist (.refl _) rfl
    | tell waiter outcome => exact hrest.told (hmine waiter rfl).1 outcome
    | cycleEnded outcome =>
      rcases hend : l.scheduler.endCycle outcome with ⟨_ | listeners, records, scheduler⟩
      · rw [perform_of_again (l := { l with ready := before ++ after }) hend]
        refine hrest.of_perm (.of_eq ?_) rfl
        unfold mentions
        rw [(listeners_of_again hend).1]
      · have hmentions := (mentions_of_over (l := { l with ready := before ++ after }) hend).1
        refine hrest.of_perm (.of_eq hmentions) ?_
        rw [perform_of_over (l := { l with ready := before ++ after }) hend]
    | beginWait waiter =>
      obtain ⟨hnot, hwaiting⟩ := hmine waiter rfl
      cases hrun : l.scheduler.run with
      | none =>
        rw [perform_beginWait_of_none (l := { l with ready := before ++ after }) hrun]
        exact hrest.told hnot _
      | ended outcome =>
        rw [perform_beginWait_of_ended (l := { l with ready := before ++ after }) hrun]
        exact hrest.told hnot _
      | pending =>
        rw [perform_beginWait_of_pending (l := { l with ready := before ++ after }) hrun]
        -- Whoever was to begin waiting listens from now on.
        refine h.of_perm ?_ rfl
        refine List.Perm.trans ?_ (mentions_perm_of_ready hready).symm
        show (_ ++ (l.scheduler.listeners ++ [waiter])).Perm (waiter :: (_ ++ _))
        rw [← List.append_assoc]
        exact List.perm_append_singleton _ _

theorem orderly_start : Orderly {} := ⟨List.nodup_nil, fun _ hn => absurd hn List.not_mem_nil⟩

theorem Steps.orderly (h : Steps l t l') (hl : l.Orderly) : l'.Orderly := by
  induction h with
  | refl => exact hl
  | tail _ hstep ih => exact ih.step hstep

/-! ### The end of waiting -/

/-- The outcome of the first run that ends in a history. -/
def firstOver? (t : List Happening) : Option (Except Fault Unit) := t.findSome? Happening.over?

/-- The outcome that whoever begins to wait for a run comes to hear, given what happens meanwhile. -/
def awaited? (run : BuildRun) (t : List Happening) : Option (Except Fault Unit) :=
  match run with
  | .none => some (.ok ())
  | .ended outcome => some outcome
  | .pending => firstOver? t

theorem awaited?_append (run : BuildRun) (t u : List Happening) :
    awaited? run (t ++ u) = (awaited? run t).or (firstOver? u) := by
  cases run with
  | none => rfl
  | ended outcome => rfl
  | pending => exact List.findSome?_append

/-- How far someone who waits has come, given the outcome that is to be heard once it is known. -/
inductive Awaits (n : Nat) (l : Line) : Option (Except Fault Unit) → Prop where
  | listening (run : l.scheduler.run = .pending) (hn : n ∈ l.scheduler.listeners) : Awaits n l none
  | ready {outcome : Except Fault Unit} (hn : .tell n outcome ∈ l.ready) :
      Awaits n l (some outcome)
  | told {outcome : Except Fault Unit} (hn : n ∉ l.mentions)
      (htold : l.waiters[n]? = some (some outcome)) : Awaits n l (some outcome)

/-- Nothing that is ready touches someone whom nothing mentions. -/
theorem perform_untouched (hjob : job.waiter? ≠ some n) (hn : n ∉ l.mentions) :
    n ∉ (l.perform job).mentions ∧ (l.perform job).waiters[n]? = l.waiters[n]? := by
  -- Only the two jobs of a waiter write its entry, and neither is about `n`.
  cases job with
  | beginRun => exact ⟨hn, rfl⟩
  | cycleEnded outcome =>
    rcases hend : l.scheduler.endCycle outcome with ⟨_ | listeners, records, scheduler⟩
    · rw [perform_of_again hend]
      refine ⟨?_, rfl⟩
      unfold mentions
      rw [(listeners_of_again hend).1]
      exact hn
    · rw [(mentions_of_over hend).1, perform_of_over hend]
      exact ⟨hn, rfl⟩
  | tell waiter outcome =>
    have hne : waiter ≠ n := fun h => hjob (congrArg some h)
    exact ⟨hn, List.getElem?_set_ne hne⟩
  | beginWait waiter =>
    have hne : waiter ≠ n := fun h => hjob (congrArg some h)
    cases hrun : l.scheduler.run with
    | none =>
      rw [perform_beginWait_of_none hrun]
      exact ⟨hn, List.getElem?_set_ne hne⟩
    | ended outcome =>
      rw [perform_beginWait_of_ended hrun]
      exact ⟨hn, List.getElem?_set_ne hne⟩
    | pending =>
      rw [perform_beginWait_of_pending hrun]
      refine ⟨?_, rfl⟩
      unfold mentions at hn ⊢
      simp only [List.mem_append, List.mem_singleton] at hn ⊢
      rintro (h | h | h)
      · exact hn (.inl h)
      · exact hn (.inr h)
      · exact hne h.symm

theorem foldl_untouched {jobs : List LineJob} (hjobs : n ∉ jobs.filterMap LineJob.waiter?)
    (hn : n ∉ l.mentions) :
    n ∉ (jobs.foldl perform l).mentions ∧ (jobs.foldl perform l).waiters[n]? = l.waiters[n]? := by
  induction jobs generalizing l with
  | nil => exact ⟨hn, rfl⟩
  | cons job jobs ih =>
    have hjob : job.waiter? ≠ some n := fun h =>
      hjobs (List.mem_filterMap.2 ⟨job, List.mem_cons_self, h⟩)
    have hrest : n ∉ jobs.filterMap LineJob.waiter? := by
      intro h
      obtain ⟨other, hother, h⟩ := List.mem_filterMap.1 h
      exact hjobs (List.mem_filterMap.2 ⟨other, List.mem_cons_of_mem _ hother, h⟩)
    obtain ⟨hnext, hsame⟩ := perform_untouched hjob hn
    obtain ⟨hlast, hrest⟩ := ih hrest hnext
    exact ⟨hlast, hrest.trans hsame⟩

/-- **Who is to be told has been told one turn later.** -/
theorem Awaits.turn (h : Awaits n l (some outcome)) (hl : l.Orderly) :
    l.turn.waiters[n]? = some (some outcome) := by
  unfold Line.turn
  cases h with
  | told hn htold =>
    unfold mentions at hn
    rw [List.mem_append, not_or] at hn
    exact (foldl_untouched (l := { l with ready := [] }) hn.1 hn.2).2.trans htold
  | ready hn =>
    obtain ⟨before, after, hready⟩ := List.append_of_mem hn
    obtain ⟨-, hmine⟩ := hl.rest hready
    obtain ⟨hnot, hwaiting⟩ := hmine n rfl
    unfold mentions at hnot
    simp only [List.filterMap_append, List.mem_append, not_or] at hnot
    obtain ⟨⟨hbefore, hafter⟩, hlisteners⟩ := hnot
    rw [hready, List.foldl_append, List.foldl_cons]
    -- What stands before leaves the waiter alone, and so does what stands behind.
    obtain ⟨hnot, hsame⟩ := foldl_untouched (l := { l with ready := [] }) hbefore hlisteners
    generalize before.foldl perform { l with ready := [] } = first at hnot hsame
    have hlt : n < first.waiters.length := by
      rw [hwaiting] at hsame
      exact (List.getElem?_eq_some_iff.1 hsame).1
    exact (foldl_untouched (l := first.told n outcome) hafter hnot).2.trans
      (List.getElem?_set_self hlt)

/-- A step leaves someone alone whom nothing mentions. -/
theorem Step.untouched (h : Step l t l') (hn : n ∉ l.mentions) (hlt : n < l.waiters.length) :
    n ∉ l'.mentions ∧ l'.waiters[n]? = l.waiters[n]? := by
  cases h with
  | request =>
    cases hbuilding : l.scheduler.building with
    | true =>
      obtain ⟨records, hrequest⟩ := request_of_building hbuilding
      rw [hrequest]
      exact ⟨hn, rfl⟩
    | false =>
      obtain ⟨records, hrequest⟩ := request_of_rest hbuilding
      rw [hrequest]
      refine ⟨?_, rfl⟩
      unfold mentions at hn ⊢
      simp only [List.filterMap_append, List.mem_append, not_or] at hn ⊢
      exact ⟨⟨hn.1, List.not_mem_nil⟩, List.not_mem_nil⟩
  | wait =>
    refine ⟨?_, List.getElem?_append_left hlt⟩
    -- A new waiter gets the next number, which no one has yet.
    have hne : n ≠ l.waiters.length := Nat.ne_of_lt hlt
    unfold mentions at hn ⊢
    unfold addWaiter
    simp only [List.filterMap_append, List.mem_append, not_or] at hn ⊢
    refine ⟨⟨hn.1, ?_⟩, hn.2⟩
    simpa [LineJob.waiter?] using hne
  | finish outcome =>
    unfold endCycle
    cases l.gate with
    | shut => exact ⟨hn, rfl⟩
    | waiting =>
      refine ⟨?_, rfl⟩
      unfold mentions at hn ⊢
      simp only [List.filterMap_append, List.mem_append, not_or] at hn ⊢
      exact ⟨⟨hn.1, List.not_mem_nil⟩, hn.2⟩
  | @perform before after job hready =>
    rw [(mentions_perm_of_ready hready).mem_iff, List.mem_append, not_or] at hn
    have hjob : job.waiter? ≠ some n := by
      intro h
      rw [h] at hn
      exact hn.1 List.mem_cons_self
    exact perform_untouched (l := { l with ready := before ++ after }) hjob hn.2

/-- Whoever listens goes on listening until the run ends, and is to be told then. -/
theorem Awaits.step_listening (hrun : l.scheduler.run = .pending) (hn : n ∈ l.scheduler.listeners)
    (hbuilding : l.scheduler.building = true) (hstep : Step l t l') :
    Awaits n l' (firstOver? t) := by
  cases hstep with
  | request =>
    obtain ⟨records, hrequest⟩ := request_of_building hbuilding
    rw [hrequest]
    exact .listening hrun hn
  | wait => exact .listening hrun hn
  | finish outcome =>
    unfold endCycle
    cases l.gate with
    | shut => exact .listening hrun hn
    | waiting => exact .listening hrun hn
  | @perform before after job hready =>
    cases job with
    | beginRun => exact .listening hrun hn
    | tell waiter outcome => exact .listening hrun hn
    | beginWait waiter =>
      rw [perform_beginWait_of_pending (l := { l with ready := before ++ after }) hrun]
      exact .listening hrun (List.mem_append_left _ hn)
    | cycleEnded outcome =>
      unfold happenings
      dsimp only
      -- Either the run goes on with one more cycle, or all who listen are to be told.
      rcases hend : l.scheduler.endCycle outcome with ⟨_ | listeners, records, scheduler⟩
      · rw [perform_of_again (l := { l with ready := before ++ after }) hend]
        obtain ⟨hlisteners, hsame⟩ := listeners_of_again hend
        rw [← hlisteners] at hn
        exact .listening (hsame.trans hrun) hn
      · obtain ⟨-, rfl, -⟩ := mentions_of_over hend
        rw [perform_of_over (l := { l with ready := before ++ after }) hend]
        have hmem := List.mem_map_of_mem (f := fun waiter => LineJob.tell waiter outcome) hn
        exact .ready (List.mem_append_right _ hmem)

/-- Who is to be told is told that and nothing else. -/
theorem Awaits.step_ready (hn : .tell n outcome ∈ l.ready) (hl : l.Orderly)
    (hstep : Step l t l') : Awaits n l' (some outcome) := by
  have hready (jobs : List LineJob) : LineJob.tell n outcome ∈ l.ready ++ jobs :=
    List.mem_append_left _ hn
  cases hstep with
  | request =>
    cases hbuilding : l.scheduler.building with
    | true =>
      obtain ⟨records, hrequest⟩ := request_of_building hbuilding
      rw [hrequest]
      exact .ready hn
    | false =>
      obtain ⟨records, hrequest⟩ := request_of_rest hbuilding
      rw [hrequest]
      exact .ready (hready _)
  | wait => exact .ready (hready _)
  | finish outcome' =>
    unfold endCycle
    cases l.gate with
    | shut => exact .ready hn
    | waiting => exact .ready (hready _)
  | @perform before after job hsplit =>
    rw [hsplit, List.mem_append, List.mem_cons] at hn
    -- The telling happens now, or it stays ready while something else happens.
    by_cases hjob : job = .tell n outcome
    · subst hjob
      obtain ⟨-, hmine⟩ := hl.rest hsplit
      obtain ⟨hnot, hwaiting⟩ := hmine n rfl
      exact .told hnot (List.getElem?_set_self (List.getElem?_eq_some_iff.1 hwaiting).1)
    · have hrest : LineJob.tell n outcome ∈ before ++ after := by
        rw [List.mem_append]
        exact hn.imp_right fun h => h.resolve_left fun heq => hjob heq.symm
      obtain ⟨more, hmore⟩ := exists_perform l job
      rw [hmore]
      exact .ready (List.mem_append_left _ hrest)

theorem Awaits.step {a : Account} {known : Option (Except Fault Unit)} (h : Awaits n l known)
    (ha : Encodes a l) (hl : l.Orderly) (hstep : Step l t l') :
    Awaits n l' (known.or (firstOver? t)) := by
  cases h with
  | ready hn => exact .step_ready hn hl hstep
  | told hn htold =>
    obtain ⟨hnot, hsame⟩ := hstep.untouched hn (List.getElem?_eq_some_iff.1 htold).1
    exact .told hnot (hsame.trans htold)
  | listening run hn =>
    refine .step_listening run hn ?_ hstep
    cases ha with
    | started building queued _ gate work => exact building
    | running building queued _ cycle => exact building
    | @rest _ last building queued hrest gate work =>
      rw [run] at hrest
      cases last <;> cases hrest

/-- Someone begins to wait, and that is what becomes of the line. -/
inductive Begins (n : Nat) (l : Line) : Line → Prop where
  | perform {before after : List LineJob} (hready : l.ready = before ++ .beginWait n :: after) :
      Begins n l ({ l with ready := before ++ after }.perform (.beginWait n))

theorem Begins.step (h : Begins n l l') : Step l [] l' := by
  cases h with
  | perform hready => exact .perform hready

/-- Whoever begins to wait listens to the run that goes on, or is told at once. -/
theorem Begins.awaits (h : Begins n l l') (hl : l.Orderly) :
    Awaits n l' (awaited? l.scheduler.run []) := by
  cases h with
  | @perform before after hready =>
    obtain ⟨hnot, hwaiting⟩ := (hl.rest hready).2 n rfl
    have hlt := (List.getElem?_eq_some_iff.1 hwaiting).1
    cases hrun : l.scheduler.run with
    | none =>
      rw [perform_beginWait_of_none (l := { l with ready := before ++ after }) hrun]
      exact .told hnot (List.getElem?_set_self hlt)
    | ended outcome =>
      rw [perform_beginWait_of_ended (l := { l with ready := before ++ after }) hrun]
      exact .told hnot (List.getElem?_set_self hlt)
    | pending =>
      rw [perform_beginWait_of_pending (l := { l with ready := before ++ after }) hrun]
      exact .listening hrun (List.mem_append_right _ List.mem_cons_self)

/-- **Whoever begins to wait comes to hear how the run ends that goes on then**, or how the last one
has ended. -/
theorem Steps.awaits {l₁ : Line} (h : Steps {} t l) (hbegins : Begins n l l₁)
    (hsteps : Steps l₁ u l') : Awaits n l' (awaited? l.scheduler.run u) := by
  have hfirst : Steps {} (t ++ []) l₁ := .tail h hbegins.step
  induction hsteps with
  | refl => exact hbegins.awaits (h.orderly orderly_start)
  | tail hsteps hstep ih =>
    have hall := hfirst.trans hsteps
    obtain ⟨a, -, ha⟩ := hall.exists_account
    rw [awaited?_append]
    exact ih.step ha (hall.orderly orderly_start) hstep

/-- Nothing else is heard before that. -/
theorem Awaits.eq_of_told {known : Option (Except Fault Unit)} (h : Awaits n l known)
    (hl : l.Orderly) (htold : l.waiters[n]? = some (some outcome)) : known = some outcome := by
  -- Whoever is still mentioned has not been told.
  have hwaits : n ∉ l.mentions := by
    intro hmem
    have hnone := hl.waiting n hmem
    rw [htold] at hnone
    cases hnone
  unfold mentions at hwaits
  rw [List.mem_append, not_or] at hwaits
  cases h with
  | listening _ hn => exact absurd hn hwaits.2
  | ready hn =>
    have hmem : n ∈ l.ready.filterMap LineJob.waiter? := List.mem_filterMap.2 ⟨_, hn, rfl⟩
    exact absurd hmem hwaits.1
  | told _ hsame =>
    rw [htold] at hsame
    exact (Option.some.inj hsame).symm

end Line

end ProbeKit
