import Mathlib.Algebra.Order.BigOperators.Group.List
import Mathlib.Algebra.Order.Ring.Nat
import ProbeKit.Proofs.Watch.Renames

/-!
# Renames are settled in time

A loop that drives a lookout takes it through moments (`Lookout.onward_advance`), and each moment at
which a timer is due leaves fewer checks to be made (`Lookout.rank_turn_lt`).  So no file is to be
looked at any more once enough time has passed (`Lookout.exists_settled`).
-/

namespace ProbeKit

open Act

namespace Lookout

variable {l₀ l l' l'' : Lookout} {past more : List Moment} {t : Timer}

/-! ### The moments of a loop -/

theorem Run.append (h : Run l₀ past l) (h' : Run l more l') : Run l₀ (past ++ more) l' := by
  induction h' with
  | begin => rwa [List.append_nil]
  | next _ hstep ih =>
    rw [← List.append_assoc]
    exact ih.next hstep

/-- There are moments from one lookout to another, and no stop is among them. -/
def Onward (l l' : Lookout) : Prop := ∃ more, Run l more l' ∧ ∀ m ∈ more, m.stops = false

theorem Onward.refl (l : Lookout) : Onward l l := ⟨[], .begin, by simp⟩

theorem Onward.trans (h : Onward l l') (h' : Onward l' l'') : Onward l l'' := by
  obtain ⟨past, hrun, hstops⟩ := h
  obtain ⟨more, hrun', hstops'⟩ := h'
  refine ⟨past ++ more, hrun.append hrun', fun m hm => ?_⟩
  exact (List.mem_append.1 hm).elim (hstops m) (hstops' m)

theorem Onward.maxRetries_eq (h : Onward l l') : l'.front.maxRetries = l.front.maxRetries := by
  obtain ⟨past, hrun, -⟩ := h
  exact hrun.config.1

theorem Step.onward {what : Happening} (h : Step l what l') (hstops : what ≠ .stop) :
    Onward l l' := by
  refine ⟨_, Run.begin.next h, fun m hm => ?_⟩
  obtain rfl := List.mem_singleton.1 hm
  cases h with
  | stop => exact absurd rfl hstops
  | notice | start | timer | around => rfl

theorem onward_foldl {α : Type} {act : Lookout → α → Lookout} (h : ∀ l a, Onward l (act l a))
    (as : List α) (l : Lookout) : Onward l (as.foldl act l) := by
  induction as generalizing l with
  | nil => exact .refl l
  | cons a rest ih => exact (h l a).trans (ih (act l a))

theorem onward_turn (l : Lookout) : Onward l l.turn := by
  have hposted : Onward l { l with posted := [] } :=
    (Step.around l { l with posted := [] } rfl rfl).onward (by simp)
  have hhanded := onward_foldl (fun l n => (Step.notice l n).onward (by simp)) l.posted
    { l with posted := [] }
  exact (hposted.trans hhanded).trans
    (onward_foldl (fun l t => (Step.timer l t).onward (by simp)) _ _)

theorem onward_settle (l : Lookout) : Onward l (loop.settle l) := by
  unfold Loop.settle
  generalize loop.patience l = n
  induction n generalizing l with
  | zero => exact .refl l
  | succ n ih =>
    unfold Loop.turns
    split
    · exact (onward_turn l).trans (ih l.turn)
    · exact .refl l

theorem onward_atTime (moment : Nat) (l : Lookout) : Onward l (loop.atTime moment l) :=
  (Step.around l { l with now := moment } rfl rfl).onward (by simp)

theorem onward_passing (moment n : Nat) (l : Lookout) : Onward l (loop.passing moment n l) := by
  induction n generalizing l with
  | zero => exact onward_atTime moment l
  | succ n ih =>
    unfold Loop.passing
    split
    · rename_i due _
      split
      · exact ((onward_atTime due l).trans (onward_settle _)).trans (ih _)
      · exact onward_atTime moment l
    · exact onward_atTime moment l

/-- **Time passes in moments**, and no stop is among them. -/
theorem onward_advance (moment : Nat) (l : Lookout) : Onward l (loop.advance moment l) :=
  (onward_settle l).trans (onward_passing moment _ _)

/-! ### When files are looked at -/

/-- Timers are due in time: a file that was looked at some times is due one delay later than as many
delays from a moment on. -/
structure Timed (start pace : Nat) (l : Lookout) : Prop where
  /-- No file has two timers. -/
  sound : l.front.Sound
  /-- The delay has an end. -/
  delay : l.front.delay = some pace
  /-- No timer is due too late, and time has not gone beyond both the moment and the timer. -/
  due : ∀ t ∈ l.front.timers, ∃ d, t.due = some d ∧ d ≤ start + (t.attempt + 1) * pace ∧
    l.now ≤ max start d

variable {start pace : Nat}

theorem Timed.next {m : Moment} (h : Timed start pace m.before)
    (hstep : Step m.before m.what m.after) (hnow : m.after.now = m.before.now)
    (hearly : m.Enters → m.before.now ≤ start) : Timed start pace m.after := by
  refine ⟨Moment.sound_after hstep h.sound, (Moment.config_after hstep).2.trans h.delay,
    fun t ht => ?_⟩
  rw [hnow]
  -- A first timer is set early, and another one no later than the one whose place it takes was due.
  cases Moment.origin hstep h.sound ht with
  | kept hmem => exact h.due t hmem
  | named hnames _ _ hattempt hsets =>
    have hearly := hearly (Moment.enters_of_names hnames)
    refine ⟨m.before.now + pace, by rw [hsets.due, h.delay]; rfl, ?_, ?_⟩
    · rw [hattempt]
      omega
    · omega
  | again hcheck _ hattempt hsets =>
    obtain ⟨d, -, hd, hlate⟩ := h.due _ (Moment.mem_of_check? hcheck)
    refine ⟨m.before.now + pace, by rw [hsets.due, h.delay]; rfl, ?_, ?_⟩
    · rw [hattempt, Nat.succ_mul]
      omega
    · omega

theorem Timed.fire (h : Timed start pace l) (t : Timer) : Timed start pace (l.fire t) :=
  Timed.next (m := ⟨l, .timer t, l.fire t⟩) h (.timer l t) rfl fun henters => henters.elim

theorem Timed.dispatch (h : Timed start pace l) (hnow : l.now ≤ start) (n : Notice) :
    Timed start pace ((dispatch n).on l).2 :=
  Timed.next (m := ⟨l, .notice n, ((Lookout.dispatch n).on l).2⟩) h (.notice l n)
    (by rw [on_dispatch]; rfl) fun _ => hnow

/-- Time may pass up to the next moment at which a timer is due. -/
theorem Timed.atTime (h : Timed start pace l) {moment : Nat}
    (hmoment : l.front.nextDue? = some moment) : Timed start pace { l with now := moment } := by
  refine ⟨h.sound, h.delay, fun t ht => ?_⟩
  obtain ⟨d, hdue, hd, -⟩ := h.due t ht
  have hmin := (List.min?_eq_some_iff.1 hmoment).2 d (List.mem_filterMap.2 ⟨t, ht, hdue⟩)
  exact ⟨d, hdue, hd, Nat.le_trans hmin (Nat.le_max_right start d)⟩

/-! ### How many checks are left -/

/-- How many checks may still be made of a file. -/
def checksLeft (l : Lookout) (t : Timer) : Nat := l.front.maxRetries + 1 - t.attempt

/-- How many checks may still be made. -/
def rank (l : Lookout) : Nat := (l.front.timers.map l.checksLeft).sum

theorem sum_without_le (left : Timer → Nat) {u : Timer} {timers : List Timer} (hu : u ∈ timers) :
    ((timers.filter (·.number != u.number)).map left).sum + left u ≤ (timers.map left).sum := by
  induction timers with
  | nil => cases hu
  | cons t rest ih =>
    have hrest : ((rest.filter (·.number != u.number)).map left).sum ≤ (rest.map left).sum :=
      (List.filter_sublist.map left).sum_le_sum fun _ _ => Nat.zero_le _
    rw [List.map_cons, List.sum_cons]
    rcases List.mem_cons.1 hu with rfl | hu
    · rw [List.filter_cons_of_neg (by simp)]
      omega
    · have := ih hu
      rw [List.filter_cons]
      split
      · rw [List.map_cons, List.sum_cons]
        omega
      · omega

theorem checksLeft_fire (l : Lookout) (t : Timer) : (l.fire t).checksLeft = l.checksLeft := by
  obtain ⟨timers, nextNumber, hfront⟩ := l.exists_front_fire t
  funext u
  rw [checksLeft, checksLeft, hfront]

theorem rank_fire_lt (hsound : l.front.Sound) {u : Timer}
    (hfind : l.front.timers.find? (·.number == t.number) = some u) : (l.fire t).rank < l.rank := by
  have hu := List.mem_of_find?_eq_some hfind
  have hchecks := checks_fire hfind
  have hwithout : ((l.without u).timers.map l.checksLeft).sum + l.checksLeft u ≤
      (l.front.timers.map l.checksLeft).sum := sum_without_le l.checksLeft hu
  have hattempt := hsound.attempts u hu
  have hleft : l.checksLeft u = l.front.maxRetries + 1 - u.attempt := rfl
  unfold rank
  by_cases hretries : l.Retries u
  · have htimers : (l.fire t).front.timers = (l.without u).timers ++
        [⟨u.path, u.attempt + 1, l.front.delay.map (l.now + ·), l.front.nextNumber⟩] := by
      rw [hchecks.again hretries]
      rfl
    have hagain := hretries.2
    -- The timer that is set again has one check less to make than the one that has fired.
    rw [checksLeft_fire, htimers, List.map_append, List.sum_append, List.map_singleton,
      List.sum_singleton]
    show _ + (l.front.maxRetries + 1 - (u.attempt + 1)) < _
    omega
  · rw [checksLeft_fire, hchecks.ends hretries]
    omega

theorem rank_fire_le (hsound : l.front.Sound) (t : Timer) : (l.fire t).rank ≤ l.rank := by
  cases hfind : l.front.timers.find? (·.number == t.number) with
  | none => rw [fire_of_stale hfind]
  | some u => exact (rank_fire_lt hsound hfind).le

theorem Timed.foldl_fire (h : Timed start pace l) (timers : List Timer) :
    Timed start pace (timers.foldl Lookout.fire l) ∧ (timers.foldl Lookout.fire l).rank ≤ l.rank ∧
      (timers.foldl Lookout.fire l).posted = l.posted := by
  induction timers generalizing l with
  | nil => exact ⟨h, Nat.le_refl _, rfl⟩
  | cons t rest ih =>
    obtain ⟨htimed, hrank, hposted⟩ := ih (h.fire t)
    exact ⟨htimed, Nat.le_trans hrank (rank_fire_le h.sound t), hposted⟩

theorem Timed.foldl_dispatch (h : Timed start pace l) (notices : List Notice)
    (hearly : notices = [] ∨ l.now ≤ start) :
    Timed start pace (notices.foldl (fun l n => ((Lookout.dispatch n).on l).2) l) ∧
      (notices.foldl (fun l n => ((Lookout.dispatch n).on l).2) l).posted = l.posted := by
  induction notices generalizing l with
  | nil => exact ⟨h, rfl⟩
  | cons n rest ih =>
    have hnow := hearly.resolve_left (by simp)
    obtain ⟨hnow', hposted'⟩ : ((Lookout.dispatch n).on l).2.now = l.now ∧
        ((Lookout.dispatch n).on l).2.posted = l.posted := by
      rw [on_dispatch]
      exact ⟨rfl, rfl⟩
    obtain ⟨htimed, hposted⟩ := ih (h.dispatch hnow n) (.inr (hnow'.trans_le hnow))
    exact ⟨htimed, hposted.trans hposted'⟩

/-! ### Turns -/

theorem Timed.turn (h : Timed start pace l) (hearly : l.posted = [] ∨ l.now ≤ start) :
    Timed start pace l.turn ∧ l.turn.posted = [] := by
  have hcleared : Timed start pace { l with posted := [] } := ⟨h.sound, h.delay, h.due⟩
  obtain ⟨hhanded, hposted⟩ := hcleared.foldl_dispatch l.posted hearly
  obtain ⟨hfired, -, hposted'⟩ := hhanded.foldl_fire (l.front.dueTimers l.now)
  exact ⟨hfired, hposted'.trans hposted⟩

theorem turn_of_posted (hposted : l.posted = []) :
    l.turn = (l.front.dueTimers l.now).foldl Lookout.fire l := by
  have hcleared : { l with posted := [] } = l := by rw [← hposted]
  rw [turn, hposted, List.foldl_nil, hcleared]

/-- **A turn at which a timer is due leaves fewer checks to be made.** -/
theorem rank_turn_lt (h : Timed start pace l) (hposted : l.posted = [])
    (hdue : l.front.dueTimers l.now ≠ []) : l.turn.rank < l.rank := by
  obtain ⟨t, rest, htimers⟩ := List.exists_cons_of_ne_nil hdue
  have ht : t ∈ l.front.timers := by
    have hmem : t ∈ l.front.dueTimers l.now := htimers ▸ List.mem_cons_self
    exact (List.mem_filter.1 (List.mem_mergeSort.1 hmem)).1
  obtain ⟨u, hfind⟩ : ∃ u, l.front.timers.find? (·.number == t.number) = some u :=
    Option.isSome_iff_exists.1 (List.find?_isSome.2 ⟨t, ht, by simp⟩)
  rw [turn_of_posted hposted, htimers, List.foldl_cons]
  exact Nat.lt_of_le_of_lt ((h.fire t).foldl_fire rest).2.1 (rank_fire_lt h.sound hfind)

theorem rank_turn_le (h : Timed start pace l) (hposted : l.posted = []) : l.turn.rank ≤ l.rank := by
  rw [turn_of_posted hposted]
  exact (h.foldl_fire _).2.1

theorem Timed.turns (h : Timed start pace l) (hposted : l.posted = []) (n : Nat) :
    Timed start pace (loop.turns n l) ∧ (loop.turns n l).posted = [] ∧
      (loop.turns n l).rank ≤ l.rank := by
  induction n generalizing l with
  | zero => exact ⟨h, hposted, Nat.le_refl _⟩
  | succ n ih =>
    unfold Loop.turns
    split
    · obtain ⟨hturn, hposted'⟩ := h.turn (.inl hposted)
      obtain ⟨htimed, hnone, hrank⟩ := ih hturn hposted'
      exact ⟨htimed, hnone, Nat.le_trans hrank (rank_turn_le h hposted)⟩
    · exact ⟨h, hposted, Nat.le_refl _⟩

theorem settle_eq (l : Lookout) : loop.settle l =
    if loop.busy l then loop.turns (l.front.patience + 1) l.turn else l := rfl

/-- Settling hands all that was posted. -/
theorem Timed.settle (h : Timed start pace l) (hearly : l.posted = [] ∨ l.now ≤ start) :
    Timed start pace (loop.settle l) ∧ (loop.settle l).posted = [] := by
  rw [settle_eq]
  split
  · obtain ⟨hturn, hposted⟩ := h.turn hearly
    obtain ⟨htimed, hnone, -⟩ := hturn.turns hposted (l.front.patience + 1)
    exact ⟨htimed, hnone⟩
  · rename_i hbusy
    have hbusy : (!l.posted.isEmpty || !(l.front.dueTimers l.now).isEmpty) = false :=
      Bool.eq_false_iff.2 hbusy
    exact ⟨h, by simpa using (Bool.or_eq_false_iff.1 hbusy).1⟩

/-- Settling at a moment at which a timer is due leaves fewer checks to be made. -/
theorem rank_settle_lt (h : Timed start pace l) (hposted : l.posted = [])
    (hdue : l.front.dueTimers l.now ≠ []) : (loop.settle l).rank < l.rank := by
  have hbusy : loop.busy l = true := by
    show (!l.posted.isEmpty || !(l.front.dueTimers l.now).isEmpty) = true
    simp [hdue]
  rw [settle_eq, if_pos hbusy]
  obtain ⟨hturn, hposted'⟩ := h.turn (.inl hposted)
  exact Nat.lt_of_le_of_lt (hturn.turns hposted' _).2.2 (rank_turn_lt h hposted hdue)

/-! ### Time -/

theorem timers_eq_nil_of_rank (hsound : l.front.Sound) (hrank : l.rank = 0) :
    l.front.timers = [] := by
  refine List.eq_nil_iff_forall_not_mem.2 fun t ht => ?_
  have hzero : l.checksLeft t = 0 :=
    List.sum_eq_zero_iff.1 hrank _ (List.mem_map_of_mem ht)
  have := hsound.attempts t ht
  unfold checksLeft at hzero
  omega

theorem rank_le_patience (l : Lookout) : l.rank ≤ loop.patience l := by
  have hsum : l.rank ≤ (l.front.timers.map l.checksLeft).length • (l.front.maxRetries + 1) := by
    refine List.sum_le_card_nsmul _ _ fun n hn => ?_
    obtain ⟨t, -, rfl⟩ := List.mem_map.1 hn
    exact Nat.sub_le _ _
  calc l.rank ≤ l.front.timers.length * (l.front.maxRetries + 1) := by simpa using hsum
    _ ≤ (l.front.timers.length + 1) * (l.front.maxRetries + 2) :=
      Nat.mul_le_mul (Nat.le_succ _) (Nat.le_succ _)
    _ ≤ loop.patience l := Nat.le_add_right _ 2

/-- The timers are due in time. -/
theorem Timed.due_le (h : Timed start pace l) {t : Timer} (ht : t ∈ l.front.timers) {d : Nat}
    (hd : t.due = some d) : d ≤ start + (l.front.maxRetries + 1) * pace := by
  obtain ⟨d', hd', hle, -⟩ := h.due t ht
  obtain rfl := Option.some.inj (hd.symm.trans hd')
  have hattempt := Nat.mul_le_mul_right pace (Nat.succ_le_succ (h.sound.attempts t ht))
  exact Nat.le_trans hle (Nat.add_le_add_left hattempt start)

/-- **Once enough time has passed no file is to be looked at any more.** -/
theorem Timed.passing (h : Timed start pace l) (hposted : l.posted = []) {moment : Nat}
    (hmoment : start + (l.front.maxRetries + 1) * pace ≤ moment) {n : Nat} (hn : l.rank ≤ n) :
    (loop.passing moment n l).front.timers = [] := by
  -- The rank bounds how often there is a next moment at which a timer is due.
  induction n generalizing l with
  | zero => exact timers_eq_nil_of_rank h.sound (Nat.le_zero.1 hn)
  | succ n ih =>
    unfold Loop.passing
    cases hnext : loop.nextDue? l with
    | none =>
      refine List.eq_nil_iff_forall_not_mem.2 fun t ht => ?_
      obtain ⟨d, hd, -⟩ := h.due t ht
      have hnone := List.min?_eq_none_iff.1 hnext
      exact absurd (List.mem_filterMap.2 ⟨t, ht, hd⟩) (hnone ▸ List.not_mem_nil)
    | some due =>
      obtain ⟨hmem, hmin⟩ := List.min?_eq_some_iff.1 hnext
      obtain ⟨t, ht, hd⟩ := List.mem_filterMap.1 hmem
      have hat := h.atTime hnext
      have hdue : l.front.dueTimers due ≠ [] := by
        have hdueTimer : t ∈ l.front.dueTimers due :=
          List.mem_mergeSort.2 (List.mem_filter.2 ⟨ht, by simp [hd]⟩)
        exact List.ne_nil_of_mem hdueTimer
      obtain ⟨hsettled, hnone⟩ := hat.settle (.inl hposted)
      have hfewer := rank_settle_lt hat hposted hdue
      dsimp only
      rw [if_pos (Nat.le_trans (h.due_le ht hd) hmoment)]
      refine ih hsettled hnone ?_ ?_
      · rwa [((onward_atTime due l).trans (onward_settle _)).maxRetries_eq]
      · exact Nat.le_of_lt_succ (Nat.lt_of_lt_of_le hfewer hn)

/-! ### Runs -/

theorem Run.due_ne_none (h₀ : l₀.Fresh) (h : Run l₀ past l) (hpace : l₀.front.delay = some pace) :
    ∀ t ∈ l.front.timers, ∃ d, t.due = some d := by
  induction h with
  | begin => simp [h₀.timers]
  | @next past l l' what hrun hstep ih =>
    intro t ht
    have hdue (hsets : Moment.Sets ⟨l, what, l'⟩ t) : ∃ d, t.due = some d := by
      refine ⟨l.now + pace, ?_⟩
      rw [hsets.due, hrun.config.2, hpace]
      rfl
    cases Moment.origin (m := ⟨l, what, l'⟩) hstep (hrun.sound h₀.sound) ht with
    | kept hmem => exact ih t hmem
    | named _ _ _ _ hsets => exact hdue hsets
    | again _ _ _ hsets => exact hdue hsets

theorem Run.exists_timed (h₀ : l₀.Fresh) (h : Run l₀ past l) (hpace : l₀.front.delay = some pace) :
    ∃ start, Timed start pace l ∧ l.now ≤ start := by
  -- The sum of all moments at which timers are due is a moment that is late enough.
  let dues := l.front.timers.map fun t => t.due.getD 0
  refine ⟨l.now + dues.sum, ⟨h.sound h₀.sound, h.config.2.trans hpace, fun t ht => ?_⟩,
    Nat.le_add_right _ _⟩
  obtain ⟨d, hd⟩ := h.due_ne_none h₀ hpace t ht
  have hmem : d ∈ dues := List.mem_map.2 ⟨t, ht, by rw [hd]; rfl⟩
  have hle := List.le_sum_of_mem hmem
  exact ⟨d, hd, by omega, by omega⟩

/-- Enough time brings each file that is to be looked at to its last check. -/
theorem Run.exists_settled (h₀ : l₀.Fresh) (h : Run l₀ past l)
    (hpace : l₀.front.delay = some pace) :
    ∃ latest, ∀ moment, latest ≤ moment → Onward l (loop.advance moment l) ∧
      (loop.advance moment l).front.timers = [] := by
  obtain ⟨start, htimed, hnow⟩ := h.exists_timed h₀ hpace
  refine ⟨start + (l.front.maxRetries + 1) * pace, fun moment hmoment =>
    ⟨onward_advance moment l, ?_⟩⟩
  obtain ⟨hsettled, hposted⟩ := htimed.settle (.inr hnow)
  rw [← (onward_settle l).maxRetries_eq] at hmoment
  exact hsettled.passing hposted hmoment (rank_le_patience _)

/-- **A file is to be looked at exactly if a raw notice has named it since its checks ended, and one
timer runs for it.  Its checks end with one event**: the first at which it is there says so, and the
one after as many as may be at which it is not says that it is gone.  A stop ends all of them at
once, and time brings all of them to their ends. -/
theorem renames_settled (h₀ : l₀.Fresh) (h : Run l₀ past l) :
    (∀ p, p ∈ l.front.pending ↔ ∃ m ∈ sinceEnd p past, m.Names p) ∧
      (l.front.timers.map (·.path)).Nodup ∧
      (∀ before m after t, past = before ++ m :: after → m.check? = some t →
        checksOf t.path before ≤ l₀.front.maxRetries ∧
        (∀ m' ∈ sinceEnd t.path before, m'.checks t.path = true →
          m'.before.present? t.path = some false) ∧
        m.after.delivered = m.before.delivered ++
          (m.before.found t.path (checksOf t.path before == l₀.front.maxRetries)).map .event ∧
        (t.path ∈ m.after.front.pending ↔
          m.before.present? t.path = some false ∧ checksOf t.path before < l₀.front.maxRetries)) ∧
      (∀ before m after, past = before ++ m :: after → m.stops = true →
        m.after.front.pending = [] ∧
        ∀ m' ∈ before ++ [m], ∀ t ∈ m'.before.front.timers, ∀ m'' ∈ after,
          m''.what = .timer t → m''.after = m''.before) ∧
      ∀ pace, l₀.front.delay = some pace → ∃ latest, ∀ moment, latest ≤ moment →
        Onward l (loop.advance moment l) ∧ (loop.advance moment l).front.pending = [] := by
  refine ⟨fun p => FrontEnd.mem_pending.trans (h.chain h₀ p).named, (h.sound h₀.sound).nodup, ?_, ?_,
    fun pace hpace => ?_⟩
  · rintro before m after t rfl hcheck
    obtain ⟨hbefore, hstep, -⟩ := h.split
    obtain ⟨hle, hdelivered, hpending⟩ := hbefore.check h₀ hstep hcheck
    exact ⟨hle, (hbefore.chain h₀ t.path).absent, hdelivered, hpending⟩
  · rintro before m after rfl hstops
    obtain ⟨-, hstep, -⟩ := h.split
    refine ⟨?_, fun m' hm' t ht m'' hm'' hwhat => h.stale h₀ hstops hm' ht hm'' hwhat⟩
    rw [Moment.front_of_stops hstep hstops]
    exact FrontEnd.pending_of_timers rfl
  · obtain ⟨latest, hlatest⟩ := h.exists_settled h₀ hpace
    refine ⟨latest, fun moment hmoment => ?_⟩
    obtain ⟨honward, htimers⟩ := hlatest moment hmoment
    exact ⟨honward, FrontEnd.pending_of_timers htimers⟩

theorem renames_settled_firstStart : ∃ m l, Knot.lookout.Fresh ∧ Run Knot.lookout [m] l ∧
    Knot.free ∈ l.front.pending ∧ ∃ latest, (loop.advance latest l).front.pending = [] := by
  let early : List Notice := [⟨.raw, ["/a.js"]⟩]
  have hrun := Knot.run_firstStart early
  obtain ⟨hpending, -, -, -, hsettled⟩ := renames_settled Knot.fresh_lookout hrun
  obtain ⟨latest, hlatest⟩ := hsettled 0 rfl
  refine ⟨_, _, Knot.fresh_lookout, hrun, (hpending Knot.free).2 ?_, latest,
    (hlatest latest (Nat.le_refl _)).2⟩
  have hitems : Knot.lookout.front.items ⟨.raw, ["/a.js"]⟩ = [⟨.raw, Knot.free⟩] := by
    decide +kernel
  refine ⟨Knot.firstStart early, List.mem_singleton_self _, ?_⟩
  rw [Moment.Names, Knot.served_firstStart]
  refine names_singleton.2 ⟨rfl, fun i hi => ?_, ⟨.raw, Knot.free⟩, ?_, Knot.file?_free .raw⟩
  · rw [show (Knot.firstStart early).before.front.items _ = _ from hitems] at hi
    obtain rfl := List.mem_singleton.1 hi
    exact Knot.resolves_free .raw
  · exact hitems ▸ List.mem_singleton_self _

/-- **A raw notice that names a file of interest comes to nothing if it also names a path that
cannot be resolved.** -/
theorem exists_forgotten : ∃ m l, Knot.lookout.Fresh ∧ Run Knot.lookout [m] l ∧
    m.served = [⟨.raw, ["/a.js", "/l.js"]⟩] ∧ l.front.ready = true ∧
      Knot.lookout.file? ⟨.raw, Path.ofString "/a.js"⟩ = some Knot.free ∧ l.front.pending = [] := by
  let early : List Notice := [⟨.raw, ["/a.js", "/l.js"]⟩]
  have hrun := Knot.run_firstStart early
  have hstep := Knot.step_firstStart early
  refine ⟨Knot.firstStart early, _, Knot.fresh_lookout, hrun, Knot.served_firstStart early,
    ?_, ?_, ?_⟩
  · rw [Moment.ready_after hstep, Knot.opens_firstStart, Bool.true_or]
  · rw [Knot.ofString_free, Knot.file?_free]
  have hitems : Knot.lookout.front.items ⟨.raw, ["/a.js", "/l.js"]⟩ =
      [⟨.raw, Knot.free⟩, ⟨.raw, Knot.loop⟩] := by decide +kernel
  have hloop := Knot.resolves_loop .raw
  refine FrontEnd.pending_of_timers (List.eq_nil_iff_forall_not_mem.2 fun t ht => ?_)
  obtain ⟨m, hm, hnames⟩ := (hrun.chain Knot.fresh_lookout t.path).named.1 ⟨t, ht, rfl⟩
  obtain rfl : m = Knot.firstStart early := List.mem_singleton.1 hm
  rw [Moment.Names, Knot.served_firstStart] at hnames
  -- To be named, a file needs all that the notice names to be resolved, the link included.
  obtain ⟨-, hresolves, -⟩ := names_singleton.1 hnames
  have hfails := hresolves ⟨.raw, Knot.loop⟩ (by
    show _ ∈ Knot.lookout.front.items _
    rw [hitems]
    simp)
  exact absurd (hfails.symm.trans hloop) (by simp)

end Lookout

end ProbeKit
