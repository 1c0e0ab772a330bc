import Mathlib.Data.List.DropRight
import Mathlib.Data.List.Nodup
import ProbeKit.Proofs.Watch.Moments

/-!
# What becomes of renames

A file that a raw notice names is looked at until it is there, or until it was not there as often as
may be.  All that counts for it is what has happened since its last such chain of checks ended
(`Lookout.sinceEnd`): it is to be looked at exactly if a raw notice has named it since, and it was
looked at as often as checks are found there (`Lookout.Chain`).
-/

namespace ProbeKit

/-! ### Timers -/

namespace FrontEnd

variable {f : FrontEnd} {t u : Timer} {p : Path}

theorem mem_pending : p ∈ f.pending ↔ f.HasTimer p := by
  simp [pending, Path.sorted, HasTimer]

theorem pending_of_timers (h : f.timers = []) : f.pending = [] := by
  simp [pending, Path.sorted, h]

/-- What holds of the timers of a front end. -/
structure Sound (f : FrontEnd) : Prop where
  /-- They are told apart by their numbers. -/
  inOrder : f.InOrder
  /-- Each file has one at most. -/
  nodup : (f.timers.map (·.path)).Nodup
  /-- Each may still fire. -/
  attempts : ∀ t ∈ f.timers, t.attempt ≤ f.maxRetries

theorem Sound.eq_of_path (h : f.Sound) (ht : t ∈ f.timers) (hu : u ∈ f.timers)
    (hpath : t.path = u.path) : t = u := List.inj_on_of_nodup_map h.nodup ht hu hpath

theorem Sound.setTimer (h : f.Sound) (s : Sight) {attempt : Nat} (hp : ¬f.HasTimer p)
    (hattempt : attempt ≤ f.maxRetries) : (f.setTimer s p attempt).Sound := by
  refine ⟨h.inOrder.setTimer s p attempt, nodup_setTimer s attempt h.nodup hp, fun t ht => ?_⟩
  rcases List.mem_append.1 ht with ht | ht
  · exact h.attempts t ht
  · obtain rfl := List.mem_singleton.1 ht
    exact hattempt

end FrontEnd

namespace Lookout

variable {l l' : Lookout} {t u : Timer} {p : Path}

theorem mem_without (h : l.front.Sound) (hu : u ∈ l.front.timers) :
    t ∈ (l.without u).timers ↔ t ∈ l.front.timers ∧ t ≠ u := by
  rw [without, List.mem_filter]
  refine and_congr_right fun ht => ?_
  rw [bne_iff_ne]
  exact not_congr ⟨h.inOrder.eq_of_number ht hu, congrArg Timer.number⟩

theorem hasTimer_without (h : l.front.Sound) (hu : u ∈ l.front.timers) :
    (l.without u).HasTimer p ↔ l.front.HasTimer p ∧ p ≠ u.path := by
  constructor
  · rintro ⟨t, ht, rfl⟩
    obtain ⟨hmem, hne⟩ := (mem_without h hu).1 ht
    exact ⟨⟨t, hmem, rfl⟩, fun hpath => hne (h.eq_of_path hmem hu hpath)⟩
  · rintro ⟨⟨t, ht, rfl⟩, hne⟩
    exact ⟨t, (mem_without h hu).2 ⟨ht, fun heq => hne (congrArg Timer.path heq)⟩, rfl⟩

theorem sound_without (h : l.front.Sound) (u : Timer) : (l.without u).Sound := by
  have hsub : (l.without u).timers.Sublist l.front.timers := List.filter_sublist
  exact ⟨(l.front.sameBut_dropTimer u.number).inOrder h.inOrder, h.nodup.sublist (hsub.map _),
    fun t ht => h.attempts t (hsub.subset ht)⟩

end Lookout

/-! ### Moments -/

namespace Moment

variable (m : Moment) (p : Path)

/-- Whether a file is looked at. -/
def checks : Bool := m.check?.any (·.path == p)

/-- Whether anything is delivered. -/
def delivers : Bool := m.after.delivered.length != m.before.delivered.length

/-- Whether the checks of a file end: watching ends, or the file is looked at and there is an event,
or it cannot be looked at. -/
def ends : Bool := m.stops || (m.checks p && (m.delivers || (m.before.present? p).isNone))

/-- A timer that is set at a moment. -/
structure Sets (t : Timer) : Prop where
  /-- It is due after the delay. -/
  due : t.due = m.before.front.delay.map (m.before.now + ·)
  /-- Its number is a new one. -/
  number : m.before.front.nextNumber ≤ t.number

/-- What a moment makes of the timers. -/
inductive Effect : Prop
  /-- One has fired and is set again. -/
  | again {t : Timer} : m.check? = some t → m.before.Retries t →
      m.after.front = (m.before.without t).setTimer m.before.sight t.path (t.attempt + 1) → Effect
  /-- One has fired for the last time. -/
  | ends {t : Timer} : m.check? = some t → ¬m.before.Retries t →
      m.after.front = m.before.without t → Effect
  /-- All are gone. -/
  | stops : m.check? = none → m.stops = true → m.after.front = m.before.front.stop → Effect
  /-- Raw notices may have set some. -/
  | adds {ready observing : Bool} {backlog : List Notice} : m.check? = none → m.stops = false →
      FrontEnd.Adds m.before.now m.Names { m.before.front with ready, backlog, observing }
        m.after.front → Effect

/-- Where a timer after a moment comes from. -/
inductive Origin (t : Timer) : Prop
  /-- It was there and has not fired. -/
  | kept : t ∈ m.before.front.timers → m.checks t.path = false → Origin t
  /-- A raw notice names its file, which had none. -/
  | named : m.Names t.path → ¬m.before.front.HasTimer t.path → m.checks t.path = false →
      t.attempt = 0 → m.Sets t → Origin t
  /-- It takes the place of the one that has fired. -/
  | again {u : Timer} : m.check? = some u → t.path = u.path → t.attempt = u.attempt + 1 →
      m.Sets t → Origin t

variable {m p} {t : Timer}

theorem checks_iff : m.checks p = true ↔ ∃ t, m.check? = some t ∧ t.path = p := by
  simp [checks, Option.any_eq_true]

theorem mem_of_check? (h : m.check? = some t) : t ∈ m.before.front.timers := by
  unfold check? at h
  split at h
  · exact List.mem_of_find?_eq_some h
  · cases h

theorem stops_of_check? (hcheck : m.check? = some t) : m.stops = false := by
  unfold check? at hcheck
  unfold stops
  split at hcheck <;> simp_all

theorem enters_of_names (hnames : m.Names p) : m.Enters := by
  by_contra henters
  rw [Names, (served_of_not_enters henters).2.2.2] at hnames
  exact Lookout.not_names_nil hnames

theorem not_names_of_check? (hcheck : m.check? = some t) : ¬m.Names p := by
  intro hnames
  rw [check?_of_enters (enters_of_names hnames)] at hcheck
  cases hcheck

section
variable (h : Lookout.Step m.before m.what m.after)
include h

/-- A timer that fires is a check. -/
theorem checks_after (hcheck : m.check? = some t) : m.before.Checks t m.after := by
  obtain ⟨l, what, l'⟩ := m
  change Lookout.Step l what l' at h
  cases h with
  | timer t' => exact Lookout.checks_fire hcheck
  | notice | start | stop | around => cases hcheck

theorem delivers_iff (hcheck : m.check? = some t) :
    m.delivers = true ↔ m.before.verdict? t ≠ none := by
  rw [delivers, (checks_after h hcheck).delivered]
  cases m.before.verdict? t <;> simp

/-- Checks of a file end unless there is another one to come. -/
theorem ends_iff (hcheck : m.check? = some t) : m.ends t.path = true ↔ ¬m.before.Retries t := by
  have hchecks : m.checks t.path = true := checks_iff.2 ⟨t, hcheck, rfl⟩
  rw [ends, stops_of_check? hcheck, hchecks, Bool.false_or, Bool.true_and, Bool.or_eq_true,
    delivers_iff h hcheck, Option.isNone_iff_eq_none]
  constructor
  · rintro (hverdict | hpresent) hretries
    · exact hverdict (Lookout.verdict?_of_retries hretries)
    · exact absurd (hpresent.symm.trans hretries.1) (by simp)
  · intro hretries
    refine or_iff_not_imp_right.2 fun hpresent hverdict => hretries ?_
    obtain ⟨present, hpresent⟩ := Option.ne_none_iff_exists'.1 hpresent
    exact Lookout.retries_of_verdict? hpresent hverdict

/-- Where no timer fires and watching does not end, timers are only added. -/
theorem adds_after (hcheck : m.check? = none) (hstops : m.stops = false) :
    ∃ ready backlog observing, FrontEnd.Adds m.before.now m.Names
      { m.before.front with ready, backlog, observing } m.after.front := by
  by_cases henters : m.Enters
  · obtain ⟨k, hprepares, hserves⟩ := exists_serves h henters
    have hadds := hserves.front
    rw [hprepares.now, hprepares.front,
      Lookout.names_congr hprepares.disk hprepares.accepts hprepares.roots] at hadds
    exact ⟨_, _, _, hadds⟩
  · have hnames (p : Path) : ¬m.Names p := fun hnames => henters (enters_of_names hnames)
    refine ⟨m.before.front.ready, m.before.front.backlog, m.before.front.observing, ?_⟩
    rw [(passes_of_not_enters h henters).front hcheck hstops]
    exact (FrontEnd.Adds.refl m.before.now m.before.front).congr fun p =>
      iff_of_false id (hnames p)

/-- A moment makes one of four things of the timers. -/
theorem effect : m.Effect := by
  cases hcheck : m.check? with
  | some t =>
    have hchecks := checks_after h hcheck
    by_cases hretries : m.before.Retries t
    · exact .again hcheck hretries (hchecks.again hretries)
    · exact .ends hcheck hretries (hchecks.ends hretries)
  | none =>
    cases hstops : m.stops with
    | true => exact .stops hcheck hstops (front_of_stops h hstops)
    | false =>
      obtain ⟨ready, backlog, observing, hadds⟩ := adds_after h hcheck hstops
      exact .adds hcheck hstops hadds

theorem config_after : m.after.front.maxRetries = m.before.front.maxRetries ∧
    m.after.front.delay = m.before.front.delay := by
  cases effect h with
  | again _ _ hfront | ends _ _ hfront | stops _ _ hfront =>
    rw [hfront]
    exact ⟨rfl, rfl⟩
  | adds _ _ hadds => exact ⟨hadds.maxRetries, hadds.delay⟩

/-- Numbers go up. -/
theorem nextNumber_after : m.before.front.nextNumber ≤ m.after.front.nextNumber := by
  cases effect h with
  | again _ _ hfront =>
    rw [hfront]
    exact Nat.le_succ _
  | ends _ _ hfront | stops _ _ hfront =>
    rw [hfront]
    exact Nat.le_refl _
  | adds _ _ hadds => exact hadds.nextNumber

end

theorem checks_eq_false_of_ne (hcheck : m.check? = some t) (hpath : p ≠ t.path) :
    m.checks p = false := by
  rw [← Bool.not_eq_true, checks_iff]
  rintro ⟨u, hu, rfl⟩
  exact hpath (congrArg Timer.path (Option.some.inj (hu.symm.trans hcheck)))

theorem checks_eq_false (hcheck : m.check? = none) : m.checks p = false := by
  rw [checks, hcheck]
  rfl

theorem ends_of_checks_eq_false (hchecks : m.checks p = false) : m.ends p = m.stops := by
  rw [ends, hchecks, Bool.false_and, Bool.or_false]

/-- A check of a file is nothing to another file. -/
theorem ends_of_ne (hcheck : m.check? = some t) (hpath : p ≠ t.path) : m.ends p = false := by
  rw [ends_of_checks_eq_false (checks_eq_false_of_ne hcheck hpath), stops_of_check? hcheck]

variable (h : Lookout.Step m.before m.what m.after) (hsound : m.before.front.Sound)
include h hsound

theorem sound_after : m.after.front.Sound := by
  cases effect h with
  | again hcheck hretries hfront =>
    rw [hfront]
    refine (Lookout.sound_without hsound _).setTimer _ (fun hself => ?_) hretries.2
    exact ((Lookout.hasTimer_without hsound (mem_of_check? hcheck)).1 hself).2 rfl
  | ends _ _ hfront =>
    rw [hfront]
    exact Lookout.sound_without hsound _
  | stops _ _ hfront =>
    rw [hfront]
    exact ⟨⟨List.Pairwise.nil, by simp [FrontEnd.stop]⟩, List.nodup_nil, by simp [FrontEnd.stop]⟩
  | adds _ _ hadds =>
    obtain ⟨new, htimers, hnew⟩ := hadds.timers
    refine ⟨hadds.inOrder ⟨hsound.inOrder.increasing, hsound.inOrder.below⟩,
      hadds.nodup hsound.nodup, fun t ht => ?_⟩
    rw [hadds.maxRetries]
    rw [htimers] at ht
    rcases List.mem_append.1 ht with ht | ht
    · exact hsound.attempts t ht
    · rw [(hnew t ht).1]
      exact Nat.zero_le _

/-- **A file is to be looked at if it was or a raw notice names it, unless its checks end.** -/
theorem hasTimer_after (p : Path) : m.after.front.HasTimer p ↔
    m.ends p = false ∧ (m.before.front.HasTimer p ∨ m.Names p) := by
  -- A moment sets a fired timer again, ends it, stops all of them, or adds some.
  cases effect h with
  | @again t hcheck hretries hfront =>
    have ht := mem_of_check? hcheck
    rw [hfront, FrontEnd.hasTimer_setTimer, Lookout.hasTimer_without hsound ht,
      or_iff_left (not_names_of_check? hcheck)]
    by_cases hpath : p = t.path
    · subst hpath
      have hends : m.ends t.path = false :=
        Bool.eq_false_iff.2 fun hends => (ends_iff h hcheck).1 hends hretries
      exact iff_of_true (.inr rfl) ⟨hends, t, ht, rfl⟩
    · rw [ends_of_ne hcheck hpath, and_iff_right rfl, or_iff_left hpath, and_iff_left hpath]
  | @ends t hcheck hretries hfront =>
    rw [hfront, Lookout.hasTimer_without hsound (mem_of_check? hcheck),
      or_iff_left (not_names_of_check? hcheck)]
    by_cases hpath : p = t.path
    · subst hpath
      rw [(ends_iff h hcheck).2 hretries]
      exact iff_of_false (fun hself => hself.2 rfl) fun hself => Bool.noConfusion hself.1
    · rw [ends_of_ne hcheck hpath, and_iff_right rfl, and_iff_left hpath]
  | stops hcheck hstops hfront =>
    rw [hfront, ends_of_checks_eq_false (checks_eq_false hcheck), hstops]
    exact iff_of_false (fun ⟨t, ht, _⟩ => absurd ht List.not_mem_nil)
      fun hself => Bool.noConfusion hself.1
  | adds hcheck hstops hadds =>
    rw [hadds.hasTimer, ends_of_checks_eq_false (checks_eq_false hcheck), hstops,
      and_iff_right rfl]
    rfl

/-- **Each timer was there, or it is set for a file that a raw notice names, or it takes the place
of the one that has fired.** -/
theorem origin (ht : t ∈ m.after.front.timers) : m.Origin t := by
  -- Next to the timer that fires no other one is for the same file.
  have hkept {u : Timer} (hcheck : m.check? = some u) (ht : t ∈ (m.before.without u).timers) :
      m.Origin t := by
    have hu := mem_of_check? hcheck
    obtain ⟨hmem, hne⟩ := (Lookout.mem_without hsound hu).1 ht
    exact .kept hmem (checks_eq_false_of_ne hcheck fun hpath =>
      hne (hsound.eq_of_path hmem hu hpath))
  cases effect h with
  | again hcheck _ hfront =>
    rw [hfront] at ht
    rcases List.mem_append.1 ht with ht | ht
    · exact hkept hcheck ht
    · obtain rfl := List.mem_singleton.1 ht
      exact .again hcheck rfl rfl ⟨rfl, Nat.le_refl _⟩
  | ends hcheck _ hfront =>
    rw [hfront] at ht
    exact hkept hcheck ht
  | stops _ _ hfront =>
    rw [hfront] at ht
    cases ht
  | adds hcheck _ hadds =>
    have hchecks := checks_eq_false (p := t.path) hcheck
    have htimer := (hadds.hasTimer t.path).1 ⟨t, ht, rfl⟩
    obtain ⟨new, htimers, hnew⟩ := hadds.timers
    rw [htimers] at ht
    rcases List.mem_append.1 ht with ht | ht
    · exact .kept ht hchecks
    · obtain ⟨hattempt, hdue, hnumber, hnone⟩ := hnew t ht
      exact .named (htimer.resolve_left hnone) hnone hchecks hattempt ⟨hdue, hnumber⟩

end Moment

/-! ### Chains of checks -/

namespace Lookout

variable {l₀ l l' : Lookout} {past before after : List Moment} {m : Moment} {p : Path} {t : Timer}

/-- The moments since the checks of a file ended for the last time. -/
def sinceEnd (p : Path) (past : List Moment) : List Moment := past.rtakeWhile fun m => !m.ends p

/-- How often a file was looked at since its checks ended for the last time. -/
def checksOf (p : Path) (past : List Moment) : Nat := (sinceEnd p past).countP fun m => m.checks p

theorem sinceEnd_concat : sinceEnd p (past ++ [m]) =
    if m.ends p then [] else sinceEnd p past ++ [m] := by
  rw [sinceEnd, List.rtakeWhile_concat]
  cases m.ends p <;> rfl

theorem checksOf_concat : checksOf p (past ++ [m]) =
    if m.ends p then 0 else checksOf p past + (m.checks p).toNat := by
  rw [checksOf, sinceEnd_concat]
  split
  · rfl
  · rw [List.countP_append, List.countP_singleton, checksOf]
    cases m.checks p <;> rfl

/-- What the moments since the checks of a file ended make of it. -/
structure Chain (past : List Moment) (l : Lookout) (p : Path) : Prop where
  /-- The file is to be looked at if a raw notice has named it since. -/
  named : l.front.HasTimer p ↔ ∃ m ∈ sinceEnd p past, m.Names p
  /-- All checks were counted. -/
  attempt : ∀ t ∈ l.front.timers, t.path = p → t.attempt = checksOf p past
  /-- What is not to be looked at was not looked at. -/
  unchecked : ¬l.front.HasTimer p → checksOf p past = 0
  /-- The file was never there. -/
  absent : ∀ m ∈ sinceEnd p past, m.checks p = true → m.before.present? p = some false

theorem Fresh.sound (h : l.Fresh) : l.front.Sound := by
  refine ⟨⟨?_, ?_⟩, ?_, ?_⟩ <;> simp [h.timers]

theorem Fresh.chain (h : l.Fresh) (p : Path) : Chain [] l p :=
  ⟨by simp [FrontEnd.HasTimer, h.timers, sinceEnd], by simp [h.timers], fun _ => rfl,
    by simp [sinceEnd]⟩

/-- Where the checks of a file end a new chain begins. -/
theorem Chain.next_of_ends (hstep : Step m.before m.what m.after) (hsound : m.before.front.Sound)
    (hends : m.ends p = true) : Chain (past ++ [m]) m.after p := by
  have hnone : ¬m.after.front.HasTimer p := fun hp => by
    rw [Moment.hasTimer_after hstep hsound p, hends] at hp
    cases hp.1
  have hsince : sinceEnd p (past ++ [m]) = [] := by rw [sinceEnd_concat, if_pos hends]
  refine ⟨?_, fun t ht hpath => absurd ⟨t, ht, hpath⟩ hnone, fun _ => ?_, ?_⟩
  · rw [hsince]
    exact iff_of_false hnone fun ⟨_, hm, _⟩ => absurd hm List.not_mem_nil
  · rw [checksOf_concat, if_pos hends]
  · rw [hsince]
    exact fun _ hm => absurd hm List.not_mem_nil

/-- Where they do not end the chain has one more moment. -/
theorem Chain.next_of_not_ends (h : Chain past m.before p)
    (hstep : Step m.before m.what m.after) (hsound : m.before.front.Sound)
    (hends : m.ends p = false) : Chain (past ++ [m]) m.after p := by
  have htimer := Moment.hasTimer_after hstep hsound p
  have hsince : sinceEnd p (past ++ [m]) = sinceEnd p past ++ [m] := by
    rw [sinceEnd_concat, hends, if_neg Bool.false_ne_true]
  have hcount : checksOf p (past ++ [m]) = checksOf p past + (m.checks p).toNat := by
    rw [checksOf_concat, hends, if_neg Bool.false_ne_true]
  rw [hends, and_iff_right rfl] at htimer
  refine ⟨?_, fun t ht hpath => ?_, fun hnone => ?_, fun m' hm' hchecks => ?_⟩
  · rw [htimer, h.named, hsince]
    simp [or_and_right, exists_or]
  · subst hpath
    rw [hcount]
    -- A timer that stays is of the same count, a first one of none, and the next one of one more.
    cases Moment.origin hstep hsound ht with
    | kept hmem hchecks =>
      rw [h.attempt t hmem rfl, hchecks]
      rfl
    | named _ hnone hchecks hattempt =>
      rw [hattempt, h.unchecked hnone, hchecks]
      rfl
    | again hcheck hpath hattempt =>
      rw [hattempt, h.attempt _ (Moment.mem_of_check? hcheck) hpath.symm,
        Moment.checks_iff.2 ⟨_, hcheck, hpath.symm⟩]
      rfl
  · have hnone : ¬m.before.front.HasTimer p := fun hp => hnone (htimer.2 (.inl hp))
    have hchecks : m.checks p = false := by
      rw [← Bool.not_eq_true, Moment.checks_iff]
      rintro ⟨t, ht, hpath⟩
      exact hnone ⟨t, Moment.mem_of_check? ht, hpath⟩
    rw [hcount, h.unchecked hnone, hchecks]
    rfl
  · rw [hsince] at hm'
    rcases List.mem_append.1 hm' with hm' | hm'
    · exact h.absent m' hm' hchecks
    · obtain rfl := List.mem_singleton.1 hm'
      -- A check that does not end the chain has found no file.
      obtain ⟨t, ht, rfl⟩ := Moment.checks_iff.1 hchecks
      rw [← Bool.not_eq_true, Moment.ends_iff hstep ht, not_not] at hends
      exact hends.1

/-- **Each moment goes on with the chain of a file**, or ends it. -/
theorem Chain.next (h : Chain past m.before p) (hstep : Step m.before m.what m.after)
    (hsound : m.before.front.Sound) : Chain (past ++ [m]) m.after p := by
  cases hends : m.ends p with
  | true => exact next_of_ends hstep hsound hends
  | false => exact h.next_of_not_ends hstep hsound hends

/-! ### What checks come to -/

/-- The event that a check of a file comes to, if it comes to one. -/
def found (l : Lookout) (p : Path) (last : Bool) : List Event :=
  match l.present? p with
  | some true => [⟨if l.known.contains p then .change else .add, p⟩]
  | some false => if last then [⟨.unlink, p⟩] else []
  | none => []

theorem map_verdict? (l : Lookout) (t : Timer) :
    (l.verdict? t).toList.map (fun kind => (⟨kind, t.path⟩ : Event)) =
      l.found t.path (decide (l.front.maxRetries ≤ t.attempt)) := by
  unfold found
  cases hpresent : l.present? t.path with
  | none =>
    rw [verdict?, hpresent]
    rfl
  | some present =>
    cases present with
    | true =>
      rw [verdict?_of_present hpresent]
      rfl
    | false =>
      by_cases hlast : l.front.maxRetries ≤ t.attempt
      · rw [verdict?_of_absent hpresent hlast]
        simp [hlast]
      · rw [verdict?_of_retries ⟨hpresent, Nat.lt_of_not_le hlast⟩]
        simp [hlast]

/-! ### Runs -/

theorem Run.sound (h₀ : l₀.front.Sound) (h : Run l₀ past l) : l.front.Sound := by
  induction h with
  | begin => exact h₀
  | next _ hstep ih => exact Moment.sound_after (m := ⟨_, _, _⟩) hstep ih

theorem Run.config (h : Run l₀ past l) :
    l.front.maxRetries = l₀.front.maxRetries ∧ l.front.delay = l₀.front.delay := by
  induction h with
  | begin => exact ⟨rfl, rfl⟩
  | next _ hstep ih =>
    obtain ⟨hmaxRetries, hdelay⟩ := Moment.config_after (m := ⟨_, _, _⟩) hstep
    exact ⟨hmaxRetries.trans ih.1, hdelay.trans ih.2⟩

theorem Run.numbers (h₀ : l₀.front.Sound) (h : Run l₀ past l) :
    l₀.front.nextNumber ≤ l.front.nextNumber ∧
      ∀ t ∈ l.front.timers, t ∈ l₀.front.timers ∨ l₀.front.nextNumber ≤ t.number := by
  induction h with
  | begin => exact ⟨Nat.le_refl _, fun _ => .inl⟩
  | next hrun hstep ih =>
    -- A timer that is set has a number that no timer had before.
    refine ⟨Nat.le_trans ih.1 (Moment.nextNumber_after (m := ⟨_, _, _⟩) hstep), fun t ht => ?_⟩
    cases Moment.origin (m := ⟨_, _, _⟩) hstep (hrun.sound h₀) ht with
    | kept hmem => exact ih.2 t hmem
    | named _ _ _ _ hsets => exact .inr (Nat.le_trans ih.1 hsets.number)
    | again _ _ _ hsets => exact .inr (Nat.le_trans ih.1 hsets.number)

theorem Run.chain (h₀ : l₀.Fresh) (h : Run l₀ past l) (p : Path) : Chain past l p := by
  induction h with
  | begin => exact h₀.chain p
  | next hrun hstep ih => exact Chain.next (m := ⟨_, _, _⟩) ih hstep (hrun.sound h₀.sound)

/-- **A check comes to what is true of the file**, and it is the last one if the file is there or
was not there as often as may be. -/
theorem Run.check (h₀ : l₀.Fresh) (h : Run l₀ before m.before)
    (hstep : Step m.before m.what m.after) (hcheck : m.check? = some t) :
    checksOf t.path before ≤ l₀.front.maxRetries ∧
      m.after.delivered = m.before.delivered ++
        (m.before.found t.path (checksOf t.path before == l₀.front.maxRetries)).map .event ∧
      (t.path ∈ m.after.front.pending ↔
        m.before.present? t.path = some false ∧ checksOf t.path before < l₀.front.maxRetries) := by
  have hsound := h.sound h₀.sound
  have ht := Moment.mem_of_check? hcheck
  have hattempt := (h.chain h₀ t.path).attempt t ht rfl
  have hle := hsound.attempts t ht
  have hretries : m.before.Retries t ↔
      m.before.present? t.path = some false ∧ checksOf t.path before < l₀.front.maxRetries := by
    rw [Retries, hattempt, h.config.1]
  rw [hattempt, h.config.1] at hle
  refine ⟨hle, ?_, ?_⟩
  · have hlast : (checksOf t.path before == l₀.front.maxRetries) =
        decide (m.before.front.maxRetries ≤ t.attempt) := by
      rw [hattempt, h.config.1, Bool.eq_iff_iff, beq_iff_eq, decide_eq_true_eq]
      omega
    rw [hlast, ← map_verdict?, (Moment.checks_after hstep hcheck).delivered, List.map_map]
    rfl
  · rw [FrontEnd.mem_pending, Moment.hasTimer_after hstep hsound, ← hretries, ← Bool.not_eq_true,
      Moment.ends_iff hstep hcheck, not_not]
    exact and_iff_left (.inl ⟨t, ht, rfl⟩)

/-- **What was set before a stop does nothing after it.** -/
theorem Run.stale (h₀ : l₀.Fresh) (h : Run l₀ (before ++ m :: after) l) (hstops : m.stops = true)
    {m' m'' : Moment} (hm' : m' ∈ before ++ [m]) (ht : t ∈ m'.before.front.timers)
    (hm'' : m'' ∈ after) (hwhat : m''.what = .timer t) : m''.after = m''.before := by
  obtain ⟨hbefore, hstep, hafter⟩ := h.split
  have hstopped := Moment.front_of_stops hstep hstops
  -- The timer has a number that was given before the stop.
  have hold : t.number < m.after.front.nextNumber := by
    have hrun : Run l₀ (before ++ [m]) m.after := Run.concat_iff.2 ⟨hbefore, hstep, rfl⟩
    obtain ⟨earlier, later, hsplit⟩ := List.append_of_mem hm'
    rw [hsplit] at hrun
    obtain ⟨hearlier, hstep', hlater⟩ := hrun.split
    have hlt := (hearlier.sound h₀.sound).inOrder.below t ht
    have hnext := Moment.nextNumber_after hstep'
    have hnext' := (hlater.numbers (Moment.sound_after hstep' (hearlier.sound h₀.sound))).1
    omega
  -- All timers that fire later have been set after it.
  obtain ⟨earlier, later, rfl⟩ := List.append_of_mem hm''
  obtain ⟨hearlier, hstep'', -⟩ := hafter.split
  have hnew (u : Timer) (hu : u ∈ m''.before.front.timers) : u.number ≠ t.number := by
    have hsound := Moment.sound_after hstep (hbefore.sound h₀.sound)
    rcases (hearlier.numbers hsound).2 u hu with hu | hu
    · rw [hstopped] at hu
      cases hu
    · omega
  obtain ⟨k, what, k'⟩ := m''
  change Step k what k' at hstep''
  obtain rfl : what = .timer t := hwhat
  cases hstep'' with
  | timer t =>
    refine fire_of_stale (List.find?_eq_none.2 fun u hu => ?_)
    simpa using hnew u hu

end Lookout

end ProbeKit
