import Mathlib.Data.List.Induction
import ProbeKit.Proofs.Disk.Loop
import ProbeKit.Proofs.Watch.Serving

/-!
# The moments of a lookout

A run of a lookout is a list of moments, each of them a notice, a start, a stop, a timer that fires
or a change of the world around it.  A start that opens a lookout does nothing but to dispatch the
notices that waited (`Lookout.on_start`), so a notice and a start are of one kind: something is
prepared, and then some notices are served (`Moment.exists_prepared`).  A timer that fires is told
by `Lookout.checks_fire`.
-/

namespace ProbeKit

open Act

/-- What happens to a lookout. -/
inductive Happening where
  /-- A notice comes in. -/
  | notice (n : Notice)
  /-- Watching begins; some notices come while observing does, and a listener may give up. -/
  | start (early : List Notice) (refusal : Option String)
  /-- Watching ends. -/
  | stop
  /-- A timer fires. -/
  | timer (t : Timer)
  /-- The world changes. -/
  | around

namespace Lookout

/-! ### Starts -/

/-- The lookout with more notices that wait. -/
def hold (l : Lookout) (notices : List Notice) : Lookout :=
  { l with front := { l.front with backlog := l.front.backlog ++ notices } }

/-- The lookout once the observer knows of the roots. -/
def approach (l : Lookout) : Lookout :=
  { l with
    calls := l.calls ++ l.front.startCalls l.disk
    journal := l.journal ++ l.front.missingRecords l.disk
    connected := l.connected || !(l.front.directories l.disk).isEmpty }

/-- The lookout once the listener was told that watching begins. -/
def announce (l : Lookout) : Lookout :=
  { l with
    front := { l.front with observing := true }
    journal := l.journal ++ [l.front.watchingRecord l.disk]
    delivered := l.delivered ++ [.ready] }

/-- The lookout once it is open and no notice waits. -/
def opened (l : Lookout) : Lookout :=
  { l with front := { l.front with ready := true, backlog := [] } }

variable {l l' : Lookout}

theorem on_forM_dispatch_of_not_ready (hready : l.front.ready = false) (notices : List Notice) :
    (notices.forM dispatch).on l = (.ok (), l.hold notices) := by
  induction notices generalizing l with
  | nil => simp [hold]
  | cons n rest ih =>
    have hdispatch : (dispatch n).on l = (.ok (), l.hold [n]) := on_dispatch_of_not_ready hready n
    rw [forM_dispatch_cons, on_bind_of_ok hdispatch, ih (l := l.hold [n]) hready]
    simp [hold]

/-- Taking notices in a row is dispatching them in a row. -/
theorem on_deliver_takeAll (l : Lookout) (notices : List Notice) :
    (deliver (l.front.takeAll l.sight notices)).on l = (notices.forM dispatch).on l := by
  induction notices generalizing l with
  | nil => simp [FrontEnd.takeAll, on_deliver, keep]
  | cons n rest ih =>
    rw [forM_dispatch_cons, on_bind, on_dispatch, FrontEnd.takeAll]
    rcases l.front.take l.sight n with ⟨front, made, fault⟩
    cases fault with
    | some f => rw [on_deliver]
    | none =>
      dsimp only
      rw [← ih, on_deliver, on_deliver]
      -- What the front end sees does not depend on what has become of itself.
      have hsight : ({ l with front := front }.keep made).sight = l.sight := rfl
      have hfront : ({ l with front := front }.keep made).front = front := rfl
      rw [hsight, hfront]
      rcases front.takeAll l.sight rest with ⟨front', more, fault⟩
      simp [keep, List.append_assoc]

/-- **A start that nothing keeps from it and that the listener bears dispatches the notices that
waited, one after the other.** -/
theorem on_start (hready : l.front.ready = false) (early : List Notice) (refusal : Option String) :
    (start early refusal).on l =
      match l.front.obstacle? l.disk, refusal with
      | some f, _ => (.error f, l.approach)
      | none, some message => (.error (.listener message), (l.approach.hold early).announce)
      | none, none =>
        ((l.front.backlog ++ early).forM dispatch).on (l.approach.hold early).announce.opened := by
  -- While observing begins nothing is open, so all that comes in waits behind what waited before.
  have hearly := on_forM_dispatch_of_not_ready (l := l.approach) hready early
  unfold start
  rw [on_modify_bind, on_get_bind]
  cases hobstacle : l.front.obstacle? l.disk with
  | some f =>
    dsimp only
    exact on_bind_of_error (on_throw f _) _
  | none =>
    refine (on_bind_of_ok hearly _).trans ?_
    rw [on_modify_bind]
    cases refusal with
    | some message => rfl
    | none =>
      exact on_deliver_takeAll (l.approach.hold early).announce.opened (l.front.backlog ++ early)

/-! ### Timers that fire -/

/-- Whether a file is there; nothing if it cannot be looked at. -/
def present? (l : Lookout) (p : Path) : Option Bool :=
  (l.disk.look p).toOption.map fun node => node.any Node.isFile

/-- What a check of a file finds to have happened to it; nothing if the file is to be looked at
again or cannot be looked at. -/
def verdict? (l : Lookout) (t : Timer) : Option EventKind :=
  (l.present? t.path).bind fun present =>
    EventKind.ofLook present (l.known.contains t.path) (l.front.maxRetries - t.attempt : Int)

/-- A check that finds no file and may be made again. -/
def Retries (l : Lookout) (t : Timer) : Prop :=
  l.present? t.path = some false ∧ t.attempt < l.front.maxRetries

/-- The front end without a timer. -/
def without (l : Lookout) (t : Timer) : FrontEnd :=
  { l.front with timers := l.front.timers.filter (·.number != t.number) }

/-- What a check makes of the front end. -/
structure Checks (l : Lookout) (t : Timer) (l' : Lookout) : Prop where
  /-- A file that is not there is looked at again. -/
  again : l.Retries t → l'.front = (l.without t).setTimer l.sight t.path (t.attempt + 1)
  /-- All else ends the timer. -/
  ends : ¬l.Retries t → l'.front = l.without t
  /-- There is one event at most. -/
  delivered : l'.delivered =
    l.delivered ++ (l.verdict? t).toList.map fun kind => .event ⟨kind, t.path⟩

theorem verdict?_of_present {t : Timer} (h : l.present? t.path = some true) :
    l.verdict? t = some (if l.known.contains t.path then .change else .add) := by
  rw [verdict?, h]
  rfl

theorem verdict?_of_retries {t : Timer} (h : l.Retries t) : l.verdict? t = none := by
  have hleft : (0 : Int) < l.front.maxRetries - t.attempt := by
    have := h.2
    omega
  rw [verdict?, h.1, Option.bind_some, EventKind.ofLook, if_neg Bool.false_ne_true, if_pos hleft]

theorem verdict?_of_absent {t : Timer} (h : l.present? t.path = some false)
    (hlast : l.front.maxRetries ≤ t.attempt) : l.verdict? t = some .unlink := by
  have hleft : ¬(0 : Int) < l.front.maxRetries - t.attempt := by omega
  rw [verdict?, h, Option.bind_some, EventKind.ofLook, if_neg Bool.false_ne_true, if_neg hleft]

theorem retries_of_verdict? {t : Timer} {present : Bool} (h : l.present? t.path = some present)
    (hnone : l.verdict? t = none) : l.Retries t := by
  cases present with
  | true =>
    rw [verdict?_of_present h] at hnone
    cases hnone
  | false =>
    refine ⟨h, Nat.lt_of_not_le fun hlast => ?_⟩
    rw [verdict?_of_absent h hlast] at hnone
    cases hnone

/-- A timer that is gone does nothing. -/
theorem fire_of_stale {t : Timer} (h : l.front.timers.find? (·.number == t.number) = none) :
    l.fire t = l := by
  rw [fire, FrontEnd.fire, h]
  simp [keep]

/-- **A timer that fires is set again, or it is gone and there is one event at most.** -/
theorem checks_fire {t u : Timer} (h : l.front.timers.find? (·.number == t.number) = some u) :
    l.Checks u (l.fire t) := by
  have hfire : l.front.fire l.sight t.number = l.front.look l.sight u := by rw [FrontEnd.fire, h]
  unfold fire
  rw [hfire]
  unfold FrontEnd.look
  -- A look that fails says nothing about the file, so its checks end without an event.
  cases hlook : l.disk.look u.path with
  | error e =>
    have hpresent : l.present? u.path = none := by
      rw [present?, hlook]
      rfl
    have hverdict : l.verdict? u = none := by
      rw [verdict?, hpresent]
      rfl
    rw [sight_disk, hlook]
    refine ⟨fun hr => absurd (hpresent.symm.trans hr.1) (by simp), fun _ => rfl, ?_⟩
    rw [hverdict]
    rfl
  | ok node =>
    have hpresent : l.present? u.path = some (node.any Node.isFile) := by
      rw [present?, hlook]
      rfl
    have hverdict : l.verdict? u = EventKind.ofLook (node.any Node.isFile)
        (l.known.contains u.path) (l.front.maxRetries - u.attempt : Int) := by
      rw [verdict?, hpresent]
      rfl
    rw [sight_disk, hlook]
    show Checks l u (_ : Lookout)
    dsimp only [Except.mapError, sight]
    rw [← hverdict]
    cases hkind : l.verdict? u with
    | none =>
      refine ⟨fun _ => rfl, fun hr => absurd (retries_of_verdict? hpresent hkind) hr, ?_⟩
      rw [hkind]
      rfl
    | some kind =>
      refine ⟨fun hr => ?_, fun _ => rfl, ?_⟩
      · rw [verdict?_of_retries hr] at hkind
        cases hkind
      · rw [hkind]
        rfl

/-- A timer that fires changes nothing but timers. -/
theorem exists_front_fire (l : Lookout) (t : Timer) :
    ∃ timers nextNumber, (l.fire t).front = { l.front with timers, nextNumber } := by
  cases hfind : l.front.timers.find? (·.number == t.number) with
  | none => exact ⟨_, _, congrArg front (fire_of_stale hfind)⟩
  | some u =>
    have hchecks := checks_fire hfind
    by_cases hretries : l.Retries u
    · exact ⟨_, _, hchecks.again hretries⟩
    · exact ⟨_, _, hchecks.ends hretries⟩

/-! ### Steps -/

/-- What one moment makes of a lookout.  Around it all may change but what it watches over
itself. -/
inductive Step : Lookout → Happening → Lookout → Prop
  /-- A notice is dispatched. -/
  | notice (l : Lookout) (n : Notice) : Step l (.notice n) ((dispatch n).on l).2
  /-- Watching begins where it does not go on. -/
  | start (l : Lookout) (early : List Notice) (refusal : Option String) :
      l.front.ready = false → Step l (.start early refusal) ((Lookout.start early refusal).on l).2
  /-- Watching ends. -/
  | stop (l : Lookout) : Step l .stop l.stop
  /-- A timer fires, or one that was stopped would have. -/
  | timer (l : Lookout) (t : Timer) : Step l (.timer t) (l.fire t)
  /-- Files, known files, time and all else change. -/
  | around (l l' : Lookout) :
      l'.front = l.front → l'.delivered = l.delivered → Step l .around l'

end Lookout

/-! ### Moments -/

/-- A moment of a lookout. -/
structure Moment where
  /-- The lookout before. -/
  before : Lookout
  /-- What happens. -/
  what : Happening
  /-- The lookout after. -/
  after : Lookout

theorem FrontEnd.eq_with_ready {f : FrontEnd} {ready : Bool} (h : f.ready = ready) :
    f = { f with ready } := by
  subst h
  rfl

namespace Moment

/-- The notices that come in. -/
def handed (m : Moment) : List Notice :=
  match m.what with
  | .notice n => [n]
  | .start early _ => if (m.before.front.obstacle? m.before.disk).isNone then early else []
  | _ => []

/-- Whether watching begins, and the listener bears it. -/
def opens (m : Moment) : Bool :=
  match m.what with
  | .start _ none => (m.before.front.obstacle? m.before.disk).isNone
  | _ => false

/-- Whether watching ends. -/
def stops (m : Moment) : Bool :=
  match m.what with
  | .stop => true
  | _ => false

/-- The listener is told that watching begins, before anything else. -/
def called (m : Moment) : List Delivery :=
  match m.what with
  | .start _ _ => if (m.before.front.obstacle? m.before.disk).isNone then [.ready] else []
  | _ => []

/-- The notices that are served. -/
def served (m : Moment) : List Notice :=
  if m.before.front.ready then m.handed
  else if m.opens then m.before.front.backlog ++ m.handed
  else []

/-- Whether notices may come in. -/
def Enters (m : Moment) : Prop :=
  match m.what with
  | .notice _ | .start _ _ => True
  | _ => False

/-- The timer that fires. -/
def check? (m : Moment) : Option Timer :=
  match m.what with
  | .timer t => m.before.front.timers.find? (·.number == t.number)
  | _ => none

/-- What is prepared before notices are served. -/
structure Prepares (m : Moment) (k : Lookout) : Prop where
  /-- An opening opens, and where nothing is served notices wait; the timers stay. -/
  front : k.front = { m.before.front with
    ready := m.before.front.ready || m.opens
    backlog := if m.opens then [] else if m.before.front.ready then m.before.front.backlog
      else m.before.front.backlog ++ m.handed
    observing := k.front.observing }
  /-- The disk stays. -/
  disk : k.disk = m.before.disk
  /-- The same files are of interest. -/
  accepts : k.accepts = m.before.accepts
  /-- It all happens at once. -/
  now : k.now = m.before.now
  /-- The listener may be told. -/
  delivered : k.delivered = m.before.delivered ++ m.called

theorem Prepares.roots {m : Moment} {k : Lookout} (h : m.Prepares k) :
    k.front.roots = m.before.front.roots := by rw [h.front]

theorem Prepares.ready {m : Moment} {k : Lookout} (h : m.Prepares k) :
    k.front.ready = (m.before.front.ready || m.opens) := by rw [h.front]

theorem Prepares.backlog {m : Moment} {k : Lookout} (h : m.Prepares k) : k.front.backlog =
    if m.opens then [] else if m.before.front.ready then m.before.front.backlog
    else m.before.front.backlog ++ m.handed := by rw [h.front]

theorem Prepares.timers {m : Moment} {k : Lookout} (h : m.Prepares k) :
    k.front.timers = m.before.front.timers := by rw [h.front]

/-- A moment prepares something and then serves notices, which it does only where they are served. -/
def Proceeds (m : Moment) : Prop :=
  ∃ k, m.Prepares k ∧ (m.served ≠ [] → k.front.ready = true) ∧
    m.after = ((m.served.forM Lookout.dispatch).on k).2

/-- A notice is served at once, or it waits until watching begins. -/
theorem proceeds_notice (l : Lookout) (n : Notice) :
    Proceeds ⟨l, .notice n, ((Lookout.dispatch n).on l).2⟩ := by
  cases hready : l.front.ready with
  | true =>
    have hserved : served ⟨l, .notice n, ((Lookout.dispatch n).on l).2⟩ = [n] := if_pos hready
    refine ⟨l, ?_, fun _ => hready, ?_⟩
    · refine ⟨?_, rfl, rfl, rfl, by simp [called]⟩
      simpa [opens, hready] using FrontEnd.eq_with_ready hready
    · rw [hserved]
      simp
  | false =>
    have hserved : served ⟨l, .notice n, ((Lookout.dispatch n).on l).2⟩ = [] := by
      simp [served, opens, hready]
    refine ⟨l.hold [n], ?_, fun h => absurd hserved h, ?_⟩
    · constructor <;> simp [opens, called, handed, Lookout.hold, hready]
    · rw [hserved, Lookout.on_dispatch_of_not_ready hready]
      rfl

/-- As watching begins the notices that have waited are served, unless something is in its way or the
listener refuses. -/
theorem proceeds_start {l : Lookout} (hready : l.front.ready = false) (early : List Notice)
    (refusal : Option String) :
    Proceeds ⟨l, .start early refusal, ((Lookout.start early refusal).on l).2⟩ := by
  generalize hafter : ((Lookout.start early refusal).on l).2 = l'
  rw [Lookout.on_start hready] at hafter
  cases hobstacle : l.front.obstacle? l.disk with
  | some f =>
    have hopens : opens ⟨l, .start early refusal, l'⟩ = false := by
      cases refusal <;> simp [opens, hobstacle]
    have hserved : served ⟨l, .start early refusal, l'⟩ = [] := by simp [served, hopens, hready]
    refine ⟨l.approach, ?_, fun h => absurd hserved h, ?_⟩
    · refine ⟨?_, rfl, rfl, rfl, by simp [called, hobstacle, Lookout.approach]⟩
      simpa [hopens, handed, hready, hobstacle, Lookout.approach] using
        FrontEnd.eq_with_ready hready
    · rw [hserved, ← hafter, hobstacle]
      rfl
  | none =>
    cases refusal with
    | some message =>
      -- The listener was told before it refused, and the notices go on waiting.
      have hserved : served ⟨l, .start early (some message), l'⟩ = [] := by
        simp [served, opens, hready]
      refine ⟨(l.approach.hold early).announce, ?_, fun h => absurd hserved h, ?_⟩
      · constructor <;> simp [opens, called, handed, Lookout.approach, Lookout.hold,
          Lookout.announce, hready, hobstacle]
      · rw [hserved, ← hafter, hobstacle]
        rfl
    | none =>
      have hserved : served ⟨l, .start early none, l'⟩ = l.front.backlog ++ early := by
        simp [served, opens, handed, hready, hobstacle]
      refine ⟨(l.approach.hold early).announce.opened, ?_, fun _ => rfl, ?_⟩
      · constructor <;> simp [opens, called, Lookout.approach, Lookout.hold,
          Lookout.announce, Lookout.opened, hobstacle]
      · rw [hserved, ← hafter, hobstacle]

/-- **A notice and a start prepare something and then serve notices.** -/
theorem exists_prepared {m : Moment} (h : Lookout.Step m.before m.what m.after)
    (henters : m.Enters) : m.Proceeds := by
  obtain ⟨l, what, l'⟩ := m
  change Lookout.Step l what l' at h
  cases h with
  | notice n => exact proceeds_notice l n
  | start early refusal hready => exact proceeds_start hready early refusal
  | stop | timer | around => cases henters

/-- The notices that are served at a moment, with all that is prepared before. -/
theorem exists_serves {m : Moment} (h : Lookout.Step m.before m.what m.after) (henters : m.Enters) :
    ∃ k, m.Prepares k ∧ k.Serves m.served m.after := by
  obtain ⟨k, hprepares, hready, hafter⟩ := exists_prepared h henters
  refine ⟨k, hprepares, ?_⟩
  rw [hafter]
  by_cases hserved : m.served = []
  · rw [hserved]
    exact .refl k
  · exact Lookout.serves_forM (hready hserved) m.served

/-- A raw notice among those that are served names a file. -/
def Names (m : Moment) (p : Path) : Prop := m.before.Names m.served p

/-! ### After a moment -/

theorem stops_of_enters {m : Moment} (h : m.Enters) : m.stops = false := by
  unfold Enters at h
  unfold stops
  split at h <;> simp_all

theorem check?_of_enters {m : Moment} (h : m.Enters) : m.check? = none := by
  unfold Enters at h
  unfold check?
  split at h <;> simp_all

/-- Where no notice can come in none is served. -/
theorem served_of_not_enters {m : Moment} (h : ¬m.Enters) :
    m.opens = false ∧ m.handed = [] ∧ m.called = [] ∧ m.served = [] := by
  have hall : m.opens = false ∧ m.handed = [] ∧ m.called = [] := by
    unfold Enters at h
    unfold opens handed called
    split at h <;> simp_all
  exact ⟨hall.1, hall.2.1, hall.2.2, by simp [served, hall.1, hall.2.1]⟩

/-- What a moment at which no notice can come in leaves as it is. -/
structure Passes (m : Moment) : Prop where
  /-- A lookout stays open unless watching ends. -/
  ready : m.after.front.ready = (m.before.front.ready && !m.stops)
  /-- The same notices wait. -/
  backlog : m.after.front.backlog = m.before.front.backlog
  /-- Only a check or an end of watching changes the front end. -/
  front : m.check? = none → m.stops = false → m.after.front = m.before.front
  /-- Only a check delivers anything. -/
  delivered : m.check? = none → m.after.delivered = m.before.delivered

variable {m : Moment} (h : Lookout.Step m.before m.what m.after)
include h

theorem passes_of_not_enters (henters : ¬m.Enters) : m.Passes := by
  obtain ⟨l, what, l'⟩ := m
  change Lookout.Step l what l' at h
  cases h with
  | notice | start => exact absurd trivial henters
  | stop =>
    refine ⟨?_, rfl, fun _ hstops => Bool.noConfusion hstops, fun _ => rfl⟩
    simp [stops, Lookout.stop, FrontEnd.stop]
  | timer t =>
    obtain ⟨timers, nextNumber, hfront⟩ := l.exists_front_fire t
    refine ⟨by simp [stops, hfront], by simp [hfront], fun hcheck _ => ?_, fun hcheck => ?_⟩
    · exact congrArg Lookout.front (Lookout.fire_of_stale hcheck)
    · exact congrArg Lookout.delivered (Lookout.fire_of_stale hcheck)
  | around _ hfront hdelivered =>
    exact ⟨by simp [stops, hfront], by simp [hfront], fun _ _ => hfront, fun _ => hdelivered⟩

theorem front_of_stops (hstops : m.stops = true) : m.after.front = m.before.front.stop := by
  obtain ⟨l, what, l'⟩ := m
  change Lookout.Step l what l' at h
  cases h with
  | stop => rfl
  | notice | start | timer | around => cases hstops

/-- A lookout is open from a start that opens it to a stop. -/
theorem ready_after :
    m.after.front.ready = (m.opens || (m.before.front.ready && !m.stops)) := by
  by_cases henters : m.Enters
  · obtain ⟨k, hprepares, hserves⟩ := exists_serves h henters
    rw [hserves.front.ready, hprepares.ready, stops_of_enters henters, Bool.not_false,
      Bool.and_true, Bool.or_comm]
  · obtain ⟨hopens, -⟩ := served_of_not_enters henters
    rw [hopens, Bool.false_or]
    exact (passes_of_not_enters h henters).ready

/-- The notices that wait are those that came in where none are served, up to an opening. -/
theorem backlog_after : m.after.front.backlog =
    if m.opens then [] else if m.before.front.ready then m.before.front.backlog
    else m.before.front.backlog ++ m.handed := by
  by_cases henters : m.Enters
  · obtain ⟨k, hprepares, hserves⟩ := exists_serves h henters
    rw [hserves.front.backlog, hprepares.backlog]
  · obtain ⟨hopens, hhanded, -⟩ := served_of_not_enters henters
    rw [hopens, hhanded, List.append_nil, ite_self, if_neg Bool.false_ne_true]
    exact (passes_of_not_enters h henters).backlog

/-- All that is delivered, but for what checks find, are the events of the notices that are
served. -/
theorem delivered_after (hcheck : m.check? = none) :
    m.after.delivered = m.before.delivered ++ m.called ++
      (m.before.eventsOf (m.served.flatMap m.before.front.items)).map .event := by
  by_cases henters : m.Enters
  · obtain ⟨k, hprepares, hserves⟩ := exists_serves h henters
    rw [hserves.delivered, hprepares.delivered, Lookout.items_congr hprepares.roots,
      Lookout.eventsOf_congr hprepares.disk hprepares.accepts]
  · obtain ⟨-, -, hcalled, hserved⟩ := served_of_not_enters henters
    rw [hcalled, hserved, (passes_of_not_enters h henters).delivered hcheck]
    simp [Lookout.eventsOf]

end Moment

/-! ### Runs -/

namespace Lookout

/-- A lookout that was not started yet. -/
structure Fresh (l : Lookout) : Prop where
  /-- It delivers no events. -/
  ready : l.front.ready = false
  /-- No notice waits. -/
  backlog : l.front.backlog = []
  /-- No file is to be looked at. -/
  timers : l.front.timers = []

/-- The moments that lead from a lookout to another. -/
inductive Run (l₀ : Lookout) : List Moment → Lookout → Prop
  /-- Nothing has happened. -/
  | begin : Run l₀ [] l₀
  /-- One more moment has gone by. -/
  | next {past : List Moment} {l l' : Lookout} {what : Happening} :
      Run l₀ past l → Step l what l' → Run l₀ (past ++ [⟨l, what, l'⟩]) l'

namespace Run

variable {l₀ l l' : Lookout} {past before after : List Moment} {m : Moment}

theorem concat_iff : Run l₀ (past ++ [m]) l ↔
    Run l₀ past m.before ∧ Step m.before m.what m.after ∧ m.after = l := by
  constructor
  · intro h
    generalize hall : past ++ [m] = all at h
    cases h with
    | begin => simp at hall
    | next hrun hstep =>
      obtain ⟨rfl, hm⟩ := List.append_inj' hall rfl
      obtain rfl := List.singleton_inj.1 hm
      exact ⟨hrun, hstep, rfl⟩
  · rintro ⟨hrun, hstep, rfl⟩
    exact hrun.next hstep

/-- A run is what came before a moment, the moment, and what came after. -/
theorem split (h : Run l₀ (before ++ m :: after) l) :
    Run l₀ before m.before ∧ Step m.before m.what m.after ∧ Run m.after after l := by
  induction after using List.reverseRecOn generalizing l with
  | nil =>
    obtain ⟨hrun, hstep, rfl⟩ := concat_iff.1 h
    exact ⟨hrun, hstep, .begin⟩
  | append_singleton after m' ih =>
    rw [← List.cons_append, ← List.append_assoc] at h
    obtain ⟨hrun, hstep, rfl⟩ := concat_iff.1 h
    obtain ⟨hbefore, hm, hafter⟩ := ih hrun
    exact ⟨hbefore, hm, concat_iff.2 ⟨hafter, hstep, rfl⟩⟩

end Run

end Lookout

/-! ### A link to itself -/

namespace Knot

/-- A disk with nothing on it but a link to itself. -/
def disk : Disk := { top := .dir [("l.js", .link "l.js")], here := [] }

/-- The link. -/
def loop : Path := ⟨.root, ["l.js"]⟩

/-- A free name. -/
def free : Path := ⟨.root, ["a.js"]⟩

theorem splitOn_loop : "l.js".splitOn "/" = ["l.js"] := by
  rw [String.splitOn, if_neg (by decide)]
  iterate 4 rw [String.splitOnAux, if_neg (by decide +kernel), if_neg (by decide +kernel)]
  rw [String.splitOnAux, if_pos (by decide +kernel)]
  decide +kernel

theorem resolve_loop : disk.resolve loop = .error (.linkLoop loop) := by
  have hloop : Disk.Loop disk.top [] "l.js" := ⟨rfl, by decide, by decide, splitOn_loop⟩
  exact Disk.resolve_of_loop rfl (fun n hn => absurd hn List.not_mem_nil) rfl hloop

theorem resolve_free : disk.resolve free = .ok free := by
  have hat : disk.top.at? ["a.js"] = none := rfl
  have hsize : "a.js".utf8ByteSize ≤ Disk.nameLimit := by decide +kernel
  have hfollow : Disk.follow disk.top (disk.top.linkCount + 1) [] [] (disk.absoluteNames free) =
      ([], ["a.js"], true) := by
    rw [show disk.absoluteNames free = ["a.js"] from rfl, Disk.follow]
    simp [hat, Disk.follow]
  have hlocate : disk.locate free = .ok (.free ["a.js"]) := by
    show Disk.walk _ _ _ _ ["a.js"] = _
    rw [Disk.walk]
    simp [hat, hsize]
  rw [Disk.resolve, hfollow]
  dsimp only
  rw [show (⟨.root, Disk.withoutDots ["a.js"]⟩ : Path) = free from rfl, hlocate]
  rfl

/-- A lookout above the link that takes all files for files of interest. -/
def lookout : Lookout :=
  { front := { roots := [⟨.root, []⟩], delay := some 0, maxRetries := 0 }
    accepts := fun _ => true, known := [], disk }

theorem fresh_lookout : lookout.Fresh := ⟨rfl, rfl, rfl⟩

theorem obstacle?_lookout : lookout.front.obstacle? lookout.disk = none := by
  have hlook : disk.look ⟨.root, []⟩ = .ok (some disk.top) := by
    rw [Disk.look, Disk.locate, Disk.locateFor, if_neg (by decide),
      show disk.absoluteNames ⟨.root, []⟩ = [] from rfl, Disk.walk]
    rfl
  show [(⟨.root, []⟩ : Path)].findSome? _ = none
  rw [List.findSome?_singleton, show lookout.disk.look ⟨.root, []⟩ = _ from hlook]

theorem ofString_loop : Path.ofString "/l.js" = loop := by decide +kernel

theorem ofString_free : Path.ofString "/a.js" = free := by decide +kernel

theorem resolves_loop (kind : EventKind) : lookout.resolves ⟨kind, loop⟩ = false := by
  rw [Lookout.resolves, show lookout.disk.resolve loop = _ from resolve_loop]
  rfl

theorem resolves_free (kind : EventKind) : lookout.resolves ⟨kind, free⟩ = true :=
  Lookout.resolves_iff.2 ⟨free, resolve_free⟩

theorem file?_free (kind : EventKind) : lookout.file? ⟨kind, free⟩ = some free :=
  Lookout.file?_eq_some_iff.2 ⟨resolve_free, rfl⟩

/-- A first start, with notices that come while observing begins. -/
def firstStart (early : List Notice) : Moment :=
  ⟨lookout, .start early none, ((Lookout.start early none).on lookout).2⟩

variable (early : List Notice)

theorem step_firstStart :
    Lookout.Step (firstStart early).before (firstStart early).what (firstStart early).after :=
  .start _ early none rfl

theorem run_firstStart : Lookout.Run lookout [firstStart early] (firstStart early).after :=
  Lookout.Run.begin.next (step_firstStart early)

theorem opens_firstStart : (firstStart early).opens = true :=
  Option.isNone_iff_eq_none.2 obstacle?_lookout

theorem handed_firstStart : (firstStart early).handed = early :=
  if_pos (Option.isNone_iff_eq_none.2 obstacle?_lookout)

theorem called_firstStart : (firstStart early).called = [.ready] :=
  if_pos (Option.isNone_iff_eq_none.2 obstacle?_lookout)

theorem served_firstStart : (firstStart early).served = early := by
  rw [Moment.served, opens_firstStart, handed_firstStart]
  rfl

end Knot

end ProbeKit
